import Formwork.Json.Basic
import Formwork.Text.Blank
/-!
# Files of environment variables

A file of variables has a statement on every line: a name, an equals sign and a value.  The word `export` may stand
in front, a value may be quoted, and a number sign starts a comment.  A name without an equals sign has no value.
Lines that cannot be parsed are skipped, and so is a byte order mark at the start.

A value may refer to a variable as `$` and the name between braces, with a default behind `:-`; it is looked up among
the statements above, and then in the environment.
-/
namespace Formwork

/-- The variables of an environment, with their values. -/
abbrev Environment := List (String × String)

namespace Environment

/-- The environment with this variable: in its place if it is there, else at the end. -/
def set (name value : String) : Environment → Environment
  | [] => [(name, value)]
  | (other, old) :: rest =>
    if other = name then (other, value) :: rest else (other, old) :: set name value rest

/-- The environment without this variable. -/
def unset (name : String) (environment : Environment) : Environment :=
  environment.filter fun entry => entry.1 ≠ name

end Environment

namespace EnvFile

/-- A name, with its value if it has one. -/
abbrev Statement := String × Option String

/-- Whether a character is white space within a line. -/
def isInnerBlank (c : Char) : Bool := Text.isBlank c && c ≠ '\n' && c ≠ '\r'

/-- Whether a character ends a line. -/
def isLineEnd (c : Char) : Bool := c = '\n' || c = '\r'

/-- The text up to the closing quotation mark, and the text behind it.  A backslash takes the character behind it
along, so an escaped mark does not close. -/
def quotedBody (mark : Char) : List Char → Option (List Char × List Char)
  | [] => none
  | ['\\'] => none
  | '\\' :: c :: rest =>
    (quotedBody mark rest).map fun (body, after) => ('\\' :: c :: body, after)
  | c :: rest =>
    if c = mark then some ([], rest)
    else (quotedBody mark rest).map fun (body, after) => (c :: body, after)

/-- The escapes in a value between apostrophes. -/
def plainEscape? : Char → Option Char
  | '\\' => some '\\'
  | '\'' => some '\''
  | _ => none

/-- The escapes in a value between quotation marks. -/
def richEscape? : Char → Option Char
  | '\\' => some '\\'
  | '\'' => some '\''
  | '"' => some '"'
  | 'a' => some '\x07'
  | 'b' => some '\x08'
  | 'f' => some '\x0c'
  | 'n' => some '\n'
  | 'r' => some '\r'
  | 't' => some '\t'
  | 'v' => some '\x0b'
  | _ => none

/-- A text with its escapes decoded; a backslash that introduces none stands for itself. -/
def unescape (escape? : Char → Option Char) : List Char → List Char
  | [] => []
  | '\\' :: c :: rest =>
    match escape? c with
    | some meant => meant :: unescape escape? rest
    | none => '\\' :: unescape escape? (c :: rest)
  | c :: rest => c :: unescape escape? rest

/-- The text in front of a comment, which starts with a number sign behind white space. -/
def beforeComment : List Char → List Char
  | [] => []
  | c :: '#' :: rest => if Text.isBlank c then [] else c :: beforeComment ('#' :: rest)
  | c :: rest => c :: beforeComment rest

/-- The name at the start of a statement, if it has one, and the text behind it.  A failure is the text that is
left. -/
def name : List Char → Except (List Char) (Option String × List Char)
  | '#' :: rest => .ok (none, '#' :: rest)
  | '\'' :: rest =>
    let word := rest.takeWhile (· ≠ '\'')
    match rest.dropWhile (· ≠ '\'') with
    | _ :: after =>
      if word = [] then .error ('\'' :: rest) else .ok (some (String.ofList word), after)
    | [] => .error ('\'' :: rest)
  | s =>
    let inside := fun c => c ≠ '=' && c ≠ '#' && !Text.isBlank c
    match s.takeWhile inside with
    | [] => .error s
    | word => .ok (some (String.ofList word), s.dropWhile inside)

/-- The value behind an equals sign, and the text behind it.  White space around it does not count. -/
def value (s : List Char) : Except (List Char) (String × List Char) :=
  match s.dropWhile isInnerBlank with
  | '\'' :: rest =>
    match quotedBody '\'' rest with
    | some (body, after) => .ok (String.ofList (unescape plainEscape? body), after)
    | none => .error ('\'' :: rest)
  | '"' :: rest =>
    match quotedBody '"' rest with
    | some (body, after) => .ok (String.ofList (unescape richEscape? body), after)
    | none => .error ('"' :: rest)
  | _ =>
    let line := s.takeWhile (!isLineEnd ·)
    .ok (String.ofList (Text.stripChars Text.isBlank (beforeComment line)),
      s.dropWhile (!isLineEnd ·))

/-- The text behind the word `export`, if it stands in front of white space. -/
def afterExport (s : List Char) : List Char :=
  let word := "export".toList
  if word.isPrefixOf s then
    match s.drop word.length with
    | c :: rest => if isInnerBlank c then rest.dropWhile isInnerBlank else s
    | [] => s
  else s

/-- The text behind a comment, if one stands here. -/
def afterComment (s : List Char) : List Char :=
  match s.dropWhile isInnerBlank with
  | '#' :: rest => rest.dropWhile (!isLineEnd ·)
  | _ => s

/-- The text behind the end of a line. -/
def afterLineEnd (s : List Char) : Except (List Char) (List Char) :=
  match s.dropWhile isInnerBlank with
  | [] => .ok []
  | '\r' :: '\n' :: rest => .ok rest
  | '\n' :: rest | '\r' :: rest => .ok rest
  | _ => .error s

/-- The statement on the first line of a text, and the text behind it; a comment is no statement. -/
def statement (s : List Char) : Except (List Char) (Option Statement × List Char) := do
  let (word, s) ← name (afterExport s)
  let (given, s) ←
    match s.dropWhile isInnerBlank with
    | '=' :: rest => do
      let (given, s) ← value rest
      pure (some given, s)
    | s => pure (none, s)
  let s ← afterLineEnd (afterComment s)
  return (word.map (·, given), s)

/-- The text behind the rest of a line. -/
def afterLine (s : List Char) : List Char := (s.dropWhile (!isLineEnd ·)).drop 1

/-- The statements of a text; every line takes at least one character of it. -/
def statementsFrom : (fuel : Nat) → List Char → List Statement
  | 0, _ => []
  | fuel + 1, s =>
    match s.dropWhile Text.isBlank with
    | [] => []
    | s =>
      match statement s with
      | .ok (some found, rest) => found :: statementsFrom fuel rest
      | .ok (none, rest) => statementsFrom fuel rest
      | .error rest => statementsFrom fuel (afterLine rest)

/-- The statements of a text. -/
def statements (text : String) : List Statement :=
  match text.toList with
  | '\ufeff' :: rest => statementsFrom (rest.length + 1) rest
  | s => statementsFrom (s.length + 1) s

/-! ## References -/

/-- A reference behind its opening brace: the name, the default, and the text behind the closing brace. -/
def reference? (s : List Char) : Option (String × Option String × List Char) :=
  let word := String.ofList (s.takeWhile fun c => c ≠ '\x7d' && c ≠ ':')
  match s.dropWhile fun c => c ≠ '\x7d' && c ≠ ':' with
  | '\x7d' :: rest => some (word, none, rest)
  | ':' :: '-' :: rest =>
    match rest.dropWhile (· ≠ '\x7d') with
    | _ :: after => some (word, some (String.ofList (rest.takeWhile (· ≠ '\x7d'))), after)
    | [] => none
  | _ => none

/-- A text with its references replaced; every reference takes at least two characters of it. -/
def expandFrom (lookup : String → Option String) : (fuel : Nat) → List Char → List Char
  | 0, s => s
  | _ + 1, [] => []
  | fuel + 1, '$' :: '\x7b' :: rest =>
    match reference? rest with
    | some (word, default, after) =>
      ((lookup word).getD (default.getD "")).toList ++ expandFrom lookup fuel after
    | none => '$' :: expandFrom lookup fuel ('\x7b' :: rest)
  | fuel + 1, c :: rest => c :: expandFrom lookup fuel rest

/-- A value with its references replaced. -/
def expand (lookup : String → Option String) (text : String) : String :=
  String.ofList (expandFrom lookup (text.toList.length + 1) text.toList)

/-- The value of a variable: that of the statements above, or else that of the environment.  A name that a
statement has without a value is empty. -/
def lookupIn (environment : Environment) (above : Fields) (word : String) :
    Option String :=
  match above.get? word with
  | some given => some (given.text?.getD "")
  | none => environment.lookup word

/-- The variables after further statements; the last of several statements for one name counts. -/
def assign (environment : Environment) (above : Fields) : List Statement → Fields
  | [] => above
  | (word, given) :: rest =>
    let expanded := given.map (expand (lookupIn environment above))
    assign environment (above.set word (.ofText? expanded)) rest

/-- The variables of a file, those without a value as `null`. -/
def read (environment : Environment) (text : String) : Fields :=
  assign environment [] (statements text)

end EnvFile
end Formwork
