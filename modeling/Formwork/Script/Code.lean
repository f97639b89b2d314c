import Formwork.Json.Printer
/-!
# Script code

The code that the script compiler emits: a header comment and one function, whose body is a sequence of pieces, which
are statements, comments and empty lines.  A statement declares a variable, evaluates an expression, or is a
`try`/`catch`.  `Script.render` writes a script out with two spaces for each level, every statement on a line of its
own, and every item of an array too.

User text occurs in literals, which escape the quotation mark, the backslash and all control characters, and in
comments, which must be on one line.
-/
namespace Formwork
namespace Script

/-- An expression. -/
inductive Expr
  /-- A string literal. -/
  | literal (text : String)
  /-- The constant string of a colon and a space, between apostrophes. -/
  | colon
  | number (value : Nat)
  | truth (value : Bool)
  /-- A variable, or a service of the platform. -/
  | name (word : String)
  | member (object : Expr) (word : String)
  | call (callee : Expr) (arguments : List Expr)
  | array (items : List Expr)
  /-- A concatenation. -/
  | join (first second : Expr)
deriving Inhabited

/-- A method call on an object. -/
def Expr.method (object : Expr) (word : String) (arguments : List Expr) : Expr :=
  .call (.member object word) arguments

/-- A statement. -/
inductive Stmt
  | declare (word : String) (value : Expr)
  | perform (value : Expr)
  /-- A `try` with a `catch`, in which the error is `e`. -/
  | attempt (body handler : List Stmt)
deriving Inhabited

/-- A piece of the body of a function. -/
inductive Piece
  | blank
  | note (text : String)
  | statement (s : Stmt)
deriving Inhabited

/-- The indentation of a line at this level. -/
def margin (depth : Nat) : List Char := List.replicate (2 * depth) ' '

/-- A string as a literal. -/
def literal (text : String) : List Char := Json.quoted Json.plainChar text.toList

/-- An optional string as a literal (`script_string`); none is written like the empty string. -/
def optionalLiteral (text : Option String) : List Char := literal (text.getD "")

mutual
/-- An expression that starts at this level. -/
def Expr.render (depth : Nat) : Expr → List Char
  | .literal text => Script.literal text
  | .colon => "': '".toList
  | .number value => Nat.toDigits 10 value
  | .truth true => "true".toList
  | .truth false => "false".toList
  | .name word => word.toList
  | .member object word => object.render depth ++ '.' :: word.toList
  | .call callee arguments => callee.render depth ++ '(' :: Expr.renderArguments depth arguments
  | .array items => '[' :: Expr.renderItems (depth + 1) items ++ '\n' :: margin depth ++ [']']
  | .join first second => first.render depth ++ ' ' :: '+' :: ' ' :: second.render depth

/-- The arguments of a call from the first one on, with the closing bracket. -/
def Expr.renderArguments (depth : Nat) : List Expr → List Char
  | [] => [')']
  | [argument] => argument.render depth ++ [')']
  | argument :: rest =>
    argument.render depth ++ ',' :: ' ' :: Expr.renderArguments depth rest

/-- The items of an array, each on a line. -/
def Expr.renderItems (depth : Nat) : List Expr → List Char
  | [] => []
  | [item] => '\n' :: margin depth ++ item.render depth
  | item :: rest =>
    '\n' :: margin depth ++ item.render depth ++ ',' :: Expr.renderItems depth rest
end

mutual
/-- A statement with its lines. -/
def Stmt.render (depth : Nat) : Stmt → List Char
  | .declare word value =>
    margin depth ++ "var ".toList ++ word.toList ++ " = ".toList ++ value.render depth
      ++ [';', '\n']
  | .perform value => margin depth ++ value.render depth ++ [';', '\n']
  | .attempt body handler =>
    margin depth ++ "try \x7b\n".toList ++ Stmt.renderAll (depth + 1) body
      ++ margin depth ++ "\x7d catch (e) \x7b\n".toList ++ Stmt.renderAll (depth + 1) handler
      ++ margin depth ++ "\x7d\n".toList

/-- Statements one after the other. -/
def Stmt.renderAll (depth : Nat) : List Stmt → List Char
  | [] => []
  | statement :: rest => statement.render depth ++ Stmt.renderAll depth rest
end

/-- A piece with its lines. -/
def Piece.render : Piece → List Char
  | .blank => ['\n']
  | .note text => margin 1 ++ "// ".toList ++ text.toList ++ ['\n']
  | .statement s => s.render 1

end Script

/-- A script. -/
structure Script where
  /-- The lines of the header comment. -/
  banner : List String
  /-- The name of the function. -/
  entry : String
  /-- The body of the function. -/
  body : List Script.Piece
deriving Inhabited

namespace Script

/-- The header comment, line by line. -/
def renderBanner (banner : List String) : List Char :=
  "/**\n".toList ++ banner.flatMap (fun line => " * ".toList ++ line.toList ++ ['\n'])
    ++ " */\n".toList

/-- The characters of a script. -/
def render (script : Script) : List Char :=
  renderBanner script.banner ++ "function ".toList ++ script.entry.toList ++ "() \x7b\n".toList
    ++ script.body.flatMap Piece.render ++ "\x7d\n".toList

/-- The text of a script. -/
def text (script : Script) : String := String.ofList script.render

end Script
end Formwork
