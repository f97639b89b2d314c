/-!
# Cutting at the first mark

`List.splitOn` cuts a text at every occurrence of a mark, and `cut` at the first one only.
-/
namespace Formwork
namespace Text

/-- What precedes the first occurrence of a mark, and what follows it, if there is one. -/
def cut (mark : Char) : List Char → List Char × Option (List Char)
  | [] => ([], none)
  | c :: rest =>
    if c = mark then ([], some rest)
    else
      let (front, behind) := cut mark rest
      (c :: front, behind)

end Text
end Formwork
