/-!
# Finding and replacing

* `occurs` says whether a text contains another.
* `replaceAll` puts a text in the place of every occurrence of another, from left to right; the
  occurrences do not overlap.
-/

namespace Spreadsheet.Text

/-- Whether `find` stands somewhere in a text. -/
def occurs (find : List Char) : List Char → Bool
  | [] => find.isEmpty
  | c :: rest => find.isPrefixOf (c :: rest) || occurs find rest

/-- A text with `new` in the place of every occurrence of `find`, which is not empty. -/
def replaceAll (find new : List Char) : List Char → List Char
  | [] => []
  | c :: rest =>
    if find.isPrefixOf (c :: rest) then new ++ replaceAll find new (rest.drop (find.length - 1))
    else c :: replaceAll find new rest
termination_by text => text.length
decreasing_by
  · simp only [List.length_drop, List.length_cons]
    omega
  · simp

end Spreadsheet.Text
