import Formwork.Json.Basic
import Formwork.Number.Shortest
/-!
# JSON text

Strings are emitted in one of two spellings.  The plain one, of `script_string`, escapes only the quotation mark, the
backslash and control characters; the ASCII one, of the token file and of the responses, writes every other character
outside of printable ASCII as one or two numbered escapes.  A `Layout` fixes white space and line breaks.
-/
namespace Formwork
namespace Json

/-- The hexadecimal digit of a number below sixteen, in lower case. -/
def hexDigit (n : Nat) : Char := Nat.digitChar (n % 16)

/-- A numbered escape: four hexadecimal digits. -/
def numbered (unit : Nat) : List Char :=
  ['\\', 'u', hexDigit (unit / 4096), hexDigit (unit / 256), hexDigit (unit / 16), hexDigit unit]

/-- The short escapes. -/
def shortEscape? : Char → Option Char
  | '"' => some '"'
  | '\\' => some '\\'
  | '\n' => some 'n'
  | '\r' => some 'r'
  | '\t' => some 't'
  | '\x08' => some 'b'
  | '\x0c' => some 'f'
  | _ => none

/-- A character in the plain spelling. -/
def plainChar (c : Char) : List Char :=
  match shortEscape? c with
  | some letter => ['\\', letter]
  | none => if c.toNat < 0x20 then numbered c.toNat else [c]

/-- A character in the ASCII spelling, as a surrogate pair if it is beyond the basic plane. -/
def asciiChar (c : Char) : List Char :=
  match shortEscape? c with
  | some letter => ['\\', letter]
  | none =>
    if 0x20 ≤ c.toNat ∧ c.toNat ≤ 0x7e then [c]
    else if c.toNat < 0x10000 then numbered c.toNat
    else
      numbered (0xd800 + (c.toNat - 0x10000) / 0x400)
        ++ numbered (0xdc00 + (c.toNat - 0x10000) % 0x400)

/-- A string literal, with this spelling of its characters. -/
def quoted (spell : Char → List Char) (text : List Char) : List Char :=
  '"' :: (text.flatMap spell ++ ['"'])

/-- An integer in decimal digits, with its sign. -/
def integer : Int → List Char
  | .ofNat n => Nat.toDigits 10 n
  | .negSucc n => '-' :: Nat.toDigits 10 (n + 1)

/-- White space and line breaks. -/
structure Layout where
  /-- The indentation of one level, when every item has a line of its own. -/
  indent : Option Nat
  /-- The text between two items. -/
  comma : List Char
  /-- The text between a key and its value. -/
  colon : List Char

namespace Layout

/-- Without white space. -/
def compact : Layout := ⟨none, [','], [':']⟩

/-- On one line, with a space behind commas and colons. -/
def spaced : Layout := ⟨none, [',', ' '], [':', ' ']⟩

/-- A line for every item, with two spaces a level. -/
def indented : Layout := ⟨some 2, [','], [':', ' ']⟩

/-- The line break in front of an item at this depth. -/
def lineBreak (layout : Layout) (depth : Nat) : List Char :=
  match layout.indent with
  | some width => '\n' :: List.replicate (width * depth) ' '
  | none => []

end Layout

variable (layout : Layout)

mutual
/-- The text of a value at this depth. -/
def render (depth : Nat) : Json → List Char
  | null => "null".toList
  | bool true => "true".toList
  | bool false => "false".toList
  | int value => integer value
  | float value => value.text .json
  | str value => quoted asciiChar value.toList
  | arr [] => ['[', ']']
  | arr (item :: rest) =>
    '[' :: (layout.lineBreak (depth + 1) ++ render (depth + 1) item
      ++ renderItems (depth + 1) rest ++ layout.lineBreak depth ++ [']'])
  | obj [] => ['\x7b', '\x7d']
  | obj ((name, value) :: rest) =>
    '\x7b' :: (layout.lineBreak (depth + 1) ++ quoted asciiChar name.toList ++ layout.colon
      ++ render (depth + 1) value ++ renderFields (depth + 1) rest ++ layout.lineBreak depth
      ++ ['\x7d'])

/-- The texts of the items behind the first. -/
def renderItems (depth : Nat) : List Json → List Char
  | [] => []
  | item :: rest =>
    layout.comma ++ layout.lineBreak depth ++ render depth item ++ renderItems depth rest

/-- The texts of the members behind the first. -/
def renderFields (depth : Nat) : List (String × Json) → List Char
  | [] => []
  | (name, value) :: rest =>
    layout.comma ++ layout.lineBreak depth ++ quoted asciiChar name.toList ++ layout.colon
      ++ render depth value ++ renderFields depth rest
end

/-- The text of a value. -/
def write (value : Json) : String := String.ofList (value.render layout 0)

end Json
end Formwork
