import Formwork.Schema.Reading
import Formwork.Text.Blank
import Formwork.Text.Cut
/-!
# Booleans and integers

The lax coercions of scalar fields.  A boolean may also be a number or a word; an integer may also be a boolean, a
number without a fraction, or a string of digits.
-/
namespace Formwork

/-- The words for true. -/
def yesWords : List String := ["1", "on", "t", "true", "y", "yes"]

/-- The words for false. -/
def noWords : List String := ["0", "off", "f", "false", "n", "no"]

/-- The boolean of a word, in any ASCII case. -/
def truthWord? (word : String) : Option Bool :=
  let lower := String.ofList (word.toList.map Char.toLower)
  if yesWords.contains lower then some true
  else if noWords.contains lower then some false
  else none

/-!
## Integers as strings

Blanks around a number do not count, nor does a plus sign in front of it, nor do the zeros in front of its digits or
of its minus sign, with the underscores among them.  What is left may end in a point with zeros behind it, and may
have single underscores inside.
-/

/-- A string that starts with a zero, without its leading zeros and the underscores among them; `last` is the last
character dropped, which stays when a point follows it or nothing does. -/
def afterZeros? (last : Char) : List Char → Option (List Char)
  | [] => some [last]
  | c :: rest =>
    if c = '0' ∨ c = '_' then afterZeros? c rest
    else if c.isDigit ∨ c = '-' then some (c :: rest)
    else if c = '.' then some (last :: c :: rest)
    else none

/-- A string without leading zeros, if a digit starts it. -/
def withoutZeros? : List Char → Option (List Char)
  | [] => none
  | c :: rest =>
    if c = '0' then afterZeros? c rest
    else if c.isDigit then some (c :: rest)
    else none

/-- A string without leading zeros in front of or behind its minus sign. -/
def withoutSignedZeros? : List Char → Option (List Char)
  | '-' :: rest => (withoutZeros? rest).map ('-' :: ·)
  | s => withoutZeros? s

/-- A string without a leading plus sign, which no minus sign may follow. -/
def withoutPlus? : List Char → Option (List Char)
  | '+' :: '-' :: _ => none
  | '+' :: rest => some rest
  | s => some s

/-- The part in front of the point, if only zeros follow it. -/
def wholeText? (s : List Char) : Option (List Char) :=
  match Text.cut '.' s with
  | (whole, none) => some whole
  | (whole, some fraction) => if fraction ≠ [] ∧ fraction.all (· = '0') then some whole else none

/-- A string without its underscores, if they stand singly and inside it. -/
def ungrouped? (s : List Char) : Option (List Char) :=
  let groups := s.splitOn '_'
  if groups.all (· ≠ []) then some groups.flatten else none

/-- The most characters that an integer in a string may have, its sign included. -/
def longestInteger : Nat := 4300

/-- The integer of digits without a leading zero, with or without a minus sign.  Too many digits are an error of
their own, whatever follows them. -/
def plainInteger (s : List Char) : Except Complaint Int :=
  let (negative, unsigned) :=
    match s with
    | '-' :: rest => (true, rest)
    | _ => (false, s)
  let digits := unsigned.takeWhile Char.isDigit
  if unsigned = ['0'] then .ok 0
  else if unsigned.head?.any (fun c => c ≠ '0' && c.isDigit) then
    if longestInteger < digits.length + negative.toNat then .error .hugeInteger
    else if digits = unsigned then
      let n : Nat := digits.foldl (fun value c => value * 10 + (c.toNat - 48)) 0
      .ok (if negative then -n else n)
    else .error .unclearInteger
  else .error .unclearInteger

/-- The integer of a string. -/
def integerText (text : String) : Except Complaint Int :=
  match (withoutPlus? (Text.stripChars Text.isSpace text.toList)).bind withoutSignedZeros? with
  | none => .error .unclearInteger
  | some s =>
    let whole := (wholeText? s).getD s
    plainInteger ((ungrouped? whole).getD whole)

/-- Whether a float is small enough to be converted to an integer. -/
def isWord (n : Int) : Bool := -0x8000000000000000 < n && n < 0x8000000000000000

namespace Reading

/-- A boolean. -/
def truth (given : Json) : Reading Bool :=
  match given with
  | .bool value => done value
  | .int 0 => done false
  | .int 1 => done true
  | .int _ => complain .unclearTruthValue given
  | .float value =>
    match value.toInt? with
    | some 0 => done false
    | some 1 => done true
    | some n => complain (if isWord n then .unclearTruthValue else .noTruthValue) given
    | none => complain .noTruthValue given
  | .str word =>
    match truthWord? word with
    | some value => done value
    | none => complain .unclearTruthValue given
  | _ => complain .noTruthValue given

/-- An integer. -/
def integer (given : Json) : Reading Int :=
  match given with
  | .int value => done value
  | .bool value => done (if value then 1 else 0)
  | .float value =>
    if !value.isFinite then complain .endlessInteger given
    else
      match value.toInt? with
      | none => complain .fractionalInteger given
      | some n => if isWord n then done n else complain .hugeInteger given
  | .str text =>
    match integerText text with
    | .ok n => done n
    | .error complaint => complain complaint given
  | _ => complain .noInteger given

/-- An integer that is not negative. -/
def count (given : Json) : Reading Nat :=
  match integer given with
  | done (.ofNat n) => done n
  | done (.negSucc _) => complain .negative given
  | failed issues => failed issues

end Reading
end Formwork
