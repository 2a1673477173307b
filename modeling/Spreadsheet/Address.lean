import Spreadsheet.Address.Column
import Spreadsheet.Decimal.Digits
import Std.Data.ExtTreeMap

/-!
# Cell addresses

An address is a pair of zero-based coordinates. People write it as a *label*: the letters of its
column and then its one-based row number, `A1` being the first cell of a sheet.

* `Address.label` writes a label and `Address.ofLabel?` reads one.
* `Address.isLabelShaped` says which texts look like a label, whether or not the cell exists.
* Addresses are ordered row by row and, within a row, by column.
-/

namespace Spreadsheet

/-- The place of a cell. -/
structure Address where
  /-- The zero-based row. -/
  row : Coord
  /-- The zero-based column. -/
  column : Coord
  deriving DecidableEq, Hashable, Repr, Inhabited

namespace Address

/-- Row-major order. -/
instance : Ord Address := ⟨compareLex (compareOn row) (compareOn column)⟩

instance : Std.TransOrd Address :=
  inferInstanceAs (Std.TransCmp (compareLex (compareOn row) (compareOn column)))

instance : Std.LawfulEqOrd Address where
  eq_of_compare {a b} h := by
    obtain ⟨hr, hc⟩ := Ordering.then_eq_eq.1 (show (compare a.row b.row).then
      (compare a.column b.column) = .eq from h)
    cases a
    cases b
    simp_all

/-! ## Labels -/

/-- The decimal digits of a one-based row number. The number is a 64-bit word, so that of the last
row wraps around to zero. -/
def rowDigits (row : Coord) : List Char :=
  Nat.toDigits 10 ((row.val + 1) % Coord.count)

/-- The label as characters: column letters, then the row number. -/
def labelChars (a : Address) : List Char :=
  Column.letters a.column ++ rowDigits a.row

/-- The label of an address. -/
def label (a : Address) : String :=
  String.ofList a.labelChars

/-- One or more capital letters and then one or more decimal digits, and nothing else. -/
def isLabelShaped (text : List Char) : Bool :=
  let letters := text.takeWhile Char.isUpper
  let digits := text.dropWhile Char.isUpper
  !letters.isEmpty && !digits.isEmpty && digits.all Char.isDigit

/-- The address that a label names. A text of another shape names none, nor do a row number zero
and a row or a column beyond the axis. -/
def ofLabel? (text : List Char) : Option Address :=
  if isLabelShaped text then do
    let column ← Column.ofLetters? (text.takeWhile Char.isUpper)
    let row ← Coord.ofOrdinal? (Decimal.digitsValue (text.dropWhile Char.isUpper))
    return ⟨row, column⟩
  else none

/-- The address that a text names as a label. -/
def parse? (text : String) : Option Address :=
  ofLabel? text.toList

/-- The address at a signed distance on both axes, if neither falls off. -/
def shift? (a : Address) (rows columns : Int) : Option Address := do
  let row ← a.row.shift? rows
  let column ← a.column.shift? columns
  return ⟨row, column⟩

end Address

end Spreadsheet
