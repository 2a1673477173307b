import Spreadsheet.Address

/-!
# Ranges

A range is the rectangle of cells between two corners, both of which belong to it. It is kept with
its corners in order, whichever two opposite corners named it.

* `Range.between` and `Range.parse?` build a range, `Range.text` writes it as `A1:B3`.
* `Range.cells` lists its cells row by row; `Range.firstCells` lists only so many, since a range
  may be far larger than any list.
* `Range.expansion?` lists them only when there are at most a million.
-/

namespace Spreadsheet

/-- An inclusive rectangle of cells. -/
structure Range where
  /-- The corner with the smaller row and the smaller column. -/
  low : Address
  /-- The corner with the larger row and the larger column. -/
  high : Address
  row_le : low.row ≤ high.row
  column_le : low.column ≤ high.column
  deriving DecidableEq

namespace Range

/-- The range between two opposite corners in any order. -/
def between (a b : Address) : Range where
  low := ⟨a.row.smaller b.row, a.column.smaller b.column⟩
  high := ⟨a.row.larger b.row, a.column.larger b.column⟩
  row_le := Coord.smaller_le_larger ..
  column_le := Coord.smaller_le_larger ..

/-! ## Reading and writing -/

/-- The texts before and after the first colon. -/
def splitColon (text : List Char) : Option (List Char × List Char) :=
  match text.dropWhile (· != ':') with
  | [] => none
  | _ :: rest => some (text.takeWhile (· != ':'), rest)

/-- Two texts shaped like labels with a colon between them. -/
def isRangeShaped (text : List Char) : Bool :=
  match splitColon text with
  | some (a, b) => Address.isLabelShaped a && Address.isLabelShaped b
  | none => false

/-- The range that a text names by the labels of two corners. -/
def ofText? (text : List Char) : Option Range := do
  let (a, b) ← splitColon text
  return between (← Address.ofLabel? a) (← Address.ofLabel? b)

/-- The range that a text names. -/
def parse? (text : String) : Option Range :=
  ofText? text.toList

/-- The text of a range: the labels of its corners. -/
def text (r : Range) : String :=
  r.low.label ++ ":" ++ r.high.label

/-! ## Cells -/

/-- The number of rows. -/
def rows (r : Range) : Nat :=
  r.high.row.val - r.low.row.val + 1

/-- The number of columns. -/
def columns (r : Range) : Nat :=
  r.high.column.val - r.low.column.val + 1

/-- The number of cells. -/
def size (r : Range) : Nat :=
  r.rows * r.columns

/-- The number of cells, if it fits a 64-bit word. -/
def count? (r : Range) : Option Nat :=
  if r.size < Coord.count then some r.size else none

/-- Whether a cell lies in the range. -/
def contains (r : Range) (a : Address) : Bool :=
  r.low.row ≤ a.row && a.row ≤ r.high.row && r.low.column ≤ a.column && a.column ≤ r.high.column

/-- The cell in a row and a column counted from the low corner. -/
def cellAt (r : Range) (row column : Nat) : Address :=
  ⟨Fin.ofNat _ (r.low.row.val + row), Fin.ofNat _ (r.low.column.val + column)⟩

/-- The cell at an index when the cells are counted row by row. -/
def cell (r : Range) (index : Nat) : Address :=
  r.cellAt (index / r.columns) (index % r.columns)

/-- The first cells of the range, row by row. -/
def firstCells (r : Range) (n : Nat) : List Address :=
  (List.range (min n r.size)).map r.cell

/-- All cells of the range, row by row. -/
def cells (r : Range) : List Address :=
  (List.range r.size).map r.cell

/-- The coordinates of the range's rows, from the first. -/
def rowCoords (r : Range) : List Coord :=
  (List.range r.rows).map fun i => Fin.ofNat _ (r.low.row.val + i)

/-- The cells of the range on one row, from left to right. -/
def rowCells (r : Range) (row : Coord) : List Address :=
  (List.range r.columns).map fun j => ⟨row, Fin.ofNat _ (r.low.column.val + j)⟩

/-- The number of cells up to which a range stands for its cells one by one. -/
def expansionLimit : Nat :=
  1000000

/-- The cells of the range, unless there are too many to stand for. -/
def expansion? (r : Range) : Option (List Address) :=
  if r.size ≤ expansionLimit then some r.cells else none

end Range

end Spreadsheet
