import Formwork.Failure
import Formwork.Text.Encoding
/-!
# Files

The files that the program reads and writes, by name.  A name is a sequence of steps from the working directory or
from the root; a step leads from a directory to something in it, or up.  Files are kept under the names of their
places, in which no step leads up from a directory or to the same one.  Reading translates every line ending to a
line feed.
-/
namespace Formwork

namespace FileName

/-- The slashes that a normalized name starts with: one for a name from the root, and two for a name that starts
with exactly two. -/
def root : List Char → List Char
  | '/' :: '/' :: '/' :: _ => ['/']
  | '/' :: '/' :: _ => ['/', '/']
  | '/' :: _ => ['/']
  | _ => []

/-- The steps of a name, without empty ones and without those to the same directory. -/
def steps (name : List Char) : List (List Char) :=
  (name.splitOn '/').filter fun step => step ≠ [] ∧ step ≠ ['.']

/-- The name with these steps behind these slashes. -/
def ofSteps (root : List Char) (steps : List (List Char)) : String :=
  match root ++ ['/'].intercalate steps with
  | [] => "."
  | name => String.ofList name

/-- A normalized name. -/
def normal (name : String) : String := ofSteps (root name.toList) (steps name.toList)

/-- The step that leads up. -/
def upward : List Char := ['.', '.']

/-- The steps to a place one step further.  There is nothing above the root, and what lies above the working
directory has no other name. -/
def next (root : List Char) (place : List (List Char)) (step : List Char) : List (List Char) :=
  if step ≠ upward then place ++ [step]
  else if place.any (· ≠ upward) then place.dropLast
  else if root = [] then place ++ [upward]
  else place

/-- The most bytes that a name may have. -/
def longest : Nat := 4095

/-- The most bytes that a step may have. -/
def longestStep : Nat := 255

end FileName

/-- Files with their texts. -/
abbrev Files := List (String × String)

namespace Files

/-- The text of a file as it was written. -/
def text? (name : String) (files : Files) : Option String := files.lookup name

/-- The files with this text in one of them. -/
def write (name text : String) : Files → Files
  | [] => [(name, text)]
  | (other, old) :: rest =>
    if other = name then (other, text) :: rest else (other, old) :: write name text rest

/-- Whether a place is a directory: the working directory, whatever lies around it, and whatever a file lies in. -/
def isDirectory (files : Files) (place : String) : Bool :=
  (FileName.steps place.toList).all (· = FileName.upward)
    || files.any fun file => (place ++ "/").toList.isPrefixOf file.1.toList

/-- The place that steps lead to from another place.  A step leads further only from a directory. -/
def walk (files : Files) (root : List Char) :
    (place steps : List (List Char)) → Except FileFault String
  | place, [] => .ok (FileName.ofSteps root place)
  | place, step :: rest =>
    let name := FileName.ofSteps root place
    if files.isDirectory name then
      if FileName.longestStep < (Text.bytes step).length then .error .tooLong
      else files.walk root (FileName.next root place step) rest
    else
      .error (if (files.text? name).isSome then .throughFile else .missing)

/-- The place that a name leads to, whether something is there or not. -/
def place (files : Files) (name : String) : Except FileFault String :=
  let chars := name.toList
  if chars.contains '\x00' then .error .nullCharacter
  else if FileName.longest < name.utf8ByteSize then .error .tooLong
  else files.walk (FileName.root chars) [] (FileName.steps chars)

/-- Whether a file or a directory of this name exists.  A name that is too long is an error. -/
def isThere (files : Files) (name : String) : Except Problem Bool :=
  match files.place name with
  | .ok place => .ok ((files.text? place).isSome || files.isDirectory place)
  | .error .tooLong => .error (.badFile .tooLong name)
  | .error _ => .ok false

/-- The place of a file that is read or written under this name. -/
def filePlace (files : Files) (name : String) : Except Problem String :=
  match files.place name with
  | .ok place => if files.isDirectory place then .error (.badFile .directory name) else .ok place
  | .error fault => .error (.badFile fault name)

/-- A text with every line ending translated to a line feed. -/
def lineFeeds : List Char → List Char
  | [] => []
  | '\r' :: '\n' :: rest => '\n' :: lineFeeds rest
  | '\r' :: rest => '\n' :: lineFeeds rest
  | c :: rest => c :: lineFeeds rest

/-- The text of a file, with line endings translated. -/
def read (files : Files) (name : String) : Except Problem String := do
  match files.text? (← files.filePlace name) with
  | some text => return String.ofList (lineFeeds text.toList)
  | none => throw (.badFile .missing name)

/-- The files with a text written to one of them. -/
def save (files : Files) (name text : String) : Except Problem Files := do
  return files.write (← files.filePlace name) text

theorem text?_write_self (name text : String) (files : Files) :
    (files.write name text).text? name = some text := by
  induction files with
  | nil => simp [write, text?]
  | cons file rest ih =>
    obtain ⟨key, old⟩ := file
    by_cases h : key = name
    · simp [write, text?, h]
    · simpa [write, text?, h, List.lookup_cons, beq_false_of_ne (Ne.symm h)] using ih

end Files
end Formwork
