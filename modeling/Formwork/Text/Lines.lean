/-!
# Lines of a text

`_comment_text` puts user text on one line before it is emitted as a comment.  Ten characters are line boundaries
(`isLineBoundary`), and a carriage return with the line feed behind it is one boundary.  `lines` cuts a text there,
without an empty line behind a boundary at its end, and `onOneLine` joins the lines by spaces.
-/
namespace Formwork
namespace Text

/-- A character that is a line boundary. -/
def isLineBoundary (c : Char) : Bool :=
  let n := c.toNat
  (0x0a ≤ n && n ≤ 0x0d) || (0x1c ≤ n && n ≤ 0x1e) || n = 0x85 || n = 0x2028 || n = 0x2029

/-- The first character of a line, in front of the lines that begin with it. -/
def consLine (c : Char) : List (List Char) → List (List Char)
  | [] => [[c]]
  | line :: rest => (c :: line) :: rest

/-- The lines of a text, without their boundaries. -/
def lines : List Char → List (List Char)
  | [] => []
  | '\r' :: '\n' :: rest => [] :: lines rest
  | c :: rest => if isLineBoundary c then [] :: lines rest else consLine c (lines rest)

/-- The lines of a text, joined by spaces. -/
def onOneLine (text : String) : String :=
  String.ofList ([' '].intercalate (lines text.toList))

end Text
end Formwork
