import Spreadsheet.Text.Ranges
import Spreadsheet.Text.WordTable

/-!
# Words

A label stands for a cell only as a word of its own: `A1` is mentioned in `A1+B1` and not in
`xA1` or `A1é`.

* `isWordChar` is the class of characters that words are made of, in every script.
* `pieces` cuts a text into its words, each as long as it can be, and the single characters between
  them. Nothing is lost: `flatten_pieces`.
-/

namespace Spreadsheet.Text

/-- Letters, marks, digits and connectors. -/
def isWordChar (c : Char) : Bool :=
  if c.toNat < 128 then c.isAlphanum || c == '_' else within wordRanges c.toNat

/-- Dropping a run from the front leaves no more than there was. -/
theorem length_dropWhile_le (p : Char → Bool) (text : List Char) :
    (text.dropWhile p).length ≤ text.length :=
  (List.dropWhile_suffix p).length_le

/-- The words of a text and the single characters between them, in order. -/
def pieces : List Char → List (List Char)
  | [] => []
  | c :: rest =>
    if isWordChar c then
      (c :: rest.takeWhile isWordChar) :: pieces (rest.dropWhile isWordChar)
    else
      [c] :: pieces rest
termination_by text => text.length
decreasing_by
  · have := length_dropWhile_le isWordChar rest
    simp only [List.length_cons]
    omega
  · simp

@[simp] theorem pieces_nil : pieces [] = [] := by
  rw [pieces]

/-- The pieces of a text make up the text. -/
theorem flatten_pieces (text : List Char) : (pieces text).flatten = text := by
  fun_induction pieces text with
  | case1 => rfl
  | case2 c rest _ ih => simp [ih]
  | case3 c rest _ ih => simp [ih]

end Spreadsheet.Text
