import Formwork.Json.Basic
import Formwork.Json.Printer
import Formwork.Text.Encoding
import Formwork.Text.Hex
import Formwork.Text.Printable
/-!
# Displayed values

Error messages display the values that they report.  A string is put between apostrophes, or between quotation marks
if it has an apostrophe and no quotation mark; the backslash, the chosen mark and every unprintable character are
escaped.  The items of containers are displayed the same way.
-/
namespace Formwork
namespace Text

/-- A character of a displayed string. -/
def displayChar (mark c : Char) : List Char :=
  if c = mark ∨ c = '\\' then ['\\', c]
  else if c = '\n' then ['\\', 'n']
  else if c = '\r' then ['\\', 'r']
  else if c = '\t' then ['\\', 't']
  else if isPrintable c then [c]
  else if c.toNat < 0x100 then '\\' :: 'x' :: hexDigits 2 c.toNat
  else if c.toNat < 0x10000 then '\\' :: 'u' :: hexDigits 4 c.toNat
  else '\\' :: 'U' :: hexDigits 8 c.toNat

/-- The mark around a displayed string. -/
def displayMark (s : List Char) : Char :=
  if s.contains '\'' && !s.contains '"' then '"' else '\''

/-- A displayed string, with its marks. -/
def displayChars (s : List Char) : List Char :=
  let mark := displayMark s
  mark :: (s.flatMap (displayChar mark) ++ [mark])

/-- A displayed string, with its marks. -/
def display (text : String) : String := String.ofList (displayChars text.toList)

/-- The longest prefix of at most so many bytes. -/
def firstBytes (limit : Nat) : List Char → List Char
  | [] => []
  | c :: rest => if c.utf8Size ≤ limit then c :: firstBytes (limit - c.utf8Size) rest else []

/-- A text of more than fifty bytes with its middle left out. -/
def shorten (s : List Char) : List Char :=
  if (bytes s).length ≤ 50 then s
  else firstBytes 25 s ++ ['.', '.', '.'] ++ (firstBytes 24 s.reverse).reverse

end Text

namespace Json

mutual
/-- A displayed value. -/
def displayValue : Json → List Char
  | null => "None".toList
  | bool true => "True".toList
  | bool false => "False".toList
  | int value => integer value
  | float value => value.text .display
  | str value => Text.displayChars value.toList
  | arr [] => ['[', ']']
  | arr (item :: rest) => '[' :: (displayValue item ++ displayItems rest ++ [']'])
  | obj [] => ['\x7b', '\x7d']
  | obj ((name, value) :: rest) =>
    '\x7b' :: (Text.displayChars name.toList ++ ':' :: ' ' :: displayValue value
      ++ displayFields rest ++ ['\x7d'])

/-- The items behind the first. -/
def displayItems : List Json → List Char
  | [] => []
  | item :: rest => ',' :: ' ' :: displayValue item ++ displayItems rest

/-- The members behind the first. -/
def displayFields : List (String × Json) → List Char
  | [] => []
  | (name, value) :: rest =>
    ',' :: ' ' :: Text.displayChars name.toList ++ ':' :: ' ' :: displayValue value
      ++ displayFields rest
end

/-- A displayed value, strings between marks. -/
def display (value : Json) : String := String.ofList value.displayValue

/-- A displayed value, a string by itself without marks. -/
def bare : Json → String
  | str value => value
  | value => value.display

/-- The name of the type of a value in messages. -/
def typeName : Json → String
  | null => "NoneType"
  | bool _ => "bool"
  | int _ => "int"
  | float _ => "float"
  | str _ => "str"
  | arr _ => "list"
  | obj _ => "dict"

end Json
end Formwork
