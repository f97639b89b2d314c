/-!
# White space

`validate_definition` treats a text as blank when stripping leaves nothing of it.  The characters that are stripped are
those with the Unicode property `White_Space` and the four information separators, which do not have it.
-/
namespace Formwork
namespace Text

/-- A character with the Unicode property `White_Space`. -/
def isSpace (c : Char) : Bool :=
  let n := c.toNat
  (9 ≤ n && n ≤ 13) || n = 0x20 || n = 0x85 || n = 0xa0 || n = 0x1680
    || (0x2000 ≤ n && n ≤ 0x200a) || n = 0x2028 || n = 0x2029 || n = 0x202f || n = 0x205f
    || n = 0x3000

/-- A character that is stripped: white space, or an information separator. -/
def isBlank (c : Char) : Bool := isSpace c || (0x1c ≤ c.toNat && c.toNat ≤ 0x1f)

/-- The characters from the first to the last that is not dropped. -/
def stripChars (drop : Char → Bool) (s : List Char) : List Char :=
  ((s.dropWhile drop).reverse.dropWhile drop).reverse

/-- The text without white space at both ends. -/
def strip (text : String) : String := String.ofList (stripChars isBlank text.toList)

/-- A text of white space only. -/
def isBlankText (text : String) : Bool := text.toList.all isBlank

/-- A text that is not empty, if there is one. -/
def nonempty? : Option String → Option String
  | some text => if text = "" then none else some text
  | none => none

/-- A text that is not blank, if there is one. -/
def present? : Option String → Option String
  | some text => if isBlankText text then none else some text
  | none => none

end Text
end Formwork
