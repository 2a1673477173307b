import Spreadsheet.Recalculation
import Spreadsheet.Sheet.Basic
import Spreadsheet.Text.Replacement

/-!
# The contents of cells

* `Sheet.setText`, `Sheet.setStyle` and `Sheet.clear` write a cell.
* `Sheet.removeDuplicates` and `Sheet.replace` work on a range.

After a change, the formula cells that depend on the changed cells are recomputed.
-/

namespace Spreadsheet.Sheet

/-- The sheet with other cells, of which those at `sources` were changed: all that depends on them
is recomputed. -/
def settle (s : Sheet) (grid : Grid) (sources : List Address) : Sheet :=
  { s with grid := grid.propagate s.registry sources }

/-- The sheet with every formula cell recomputed. -/
def recalculate (s : Sheet) : Sheet :=
  { s with grid := s.grid.recalculate s.registry }

/-! ## Single cells -/

/-- The sheet with a text entered at an address. -/
def enter (s : Sheet) (a : Address) (text : String) : Sheet :=
  let entered : Grid := s.grid.insert a ((s.grid.getD a {}).enter text)
  let v := entered.result s.registry entered.graph a text
  s.settle (entered.setValue a v) [a]

/-- The sheet with a text entered in a cell. -/
def setText (s : Sheet) (label text : String) : Except SheetError Sheet :=
  (Address.ofText label).map fun a => s.enter a text

/-- The sheet with a patch merged into the style at an address. -/
def restyle (s : Sheet) (a : Address) (patch : StylePatch) : Sheet :=
  let c := s.grid.getD a {}
  { s with grid := s.grid.insert a { c with style := c.style.apply patch } }

/-- The sheet with a patch merged into the style of a cell. -/
def setStyle (s : Sheet) (label : String) (patch : StylePatch) : Except SheetError Sheet :=
  (Address.ofText label).map fun a => s.restyle a patch

/-- The sheet without the cell at an address. -/
def erase (s : Sheet) (a : Address) : Sheet :=
  if s.grid.contains a then s.settle (s.grid.erase a) [a] else s

/-- Whether a cell is stored, and the sheet without it. -/
def clear (s : Sheet) (label : String) : Except SheetError (Bool × Sheet) :=
  (Address.ofText label).map fun a => (s.grid.contains a, s.erase a)

/-! ## Duplicate rows -/

/-- The texts entered in the cells of a range on one row. -/
def signature (g : Grid) (r : Range) (row : Coord) : List String :=
  (r.rowCells row).map g.raw

/-- The rows that have been compared: the signatures among them, and the rows that repeat one. -/
structure Survey where
  signatures : List (List String) := []
  repeated : List Coord := []

/-- Compare one more row. -/
def Survey.visit (g : Grid) (r : Range) (s : Survey) (row : Coord) : Survey :=
  let key := signature g r row
  if s.signatures.contains key then { s with repeated := row :: s.repeated }
  else { s with signatures := key :: s.signatures }

/-- The rows of a range whose signature an earlier row of the range has. -/
def repeatedRows (g : Grid) (r : Range) : List Coord :=
  (r.rowCoords.foldl (Survey.visit g r) {}).repeated

/-- The sheet without the cells on the rows of a range that repeat earlier rows. Whole rows are
emptied, also beyond the range, and nothing moves. -/
def eraseRepeated (s : Sheet) (r : Range) : Sheet :=
  let rows := repeatedRows s.grid r
  let kept := s.grid.restrict fun a => !rows.contains a.row
  let removed := s.grid.restrict fun a => rows.contains a.row
  s.settle kept removed.keys

/-- The number of rows between two corners that repeat earlier rows, and the sheet without their
cells. -/
def removeDuplicates (s : Sheet) (first last : String) : Except SheetError (Nat × Sheet) :=
  (rangeBetween first last).map fun r => ((repeatedRows s.grid r).length, s.eraseRepeated r)

/-! ## Replacement -/

/-- A text with every occurrence of another replaced. -/
def replaceText (find new text : String) : String :=
  String.ofList (Text.replaceAll find.toList new.toList text.toList)

/-- A value with every occurrence of a text replaced in it: in a number, in the digits by which it
is shown, which are then read again. -/
def replaceValue (find new : String) : Value → Value
  | .text t => .text (replaceText find new t)
  | .number x => .ofLiteral (replaceText find new (Decimal.display x))
  | v => v

/-- A cell with every occurrence of a text replaced in what was entered and in its value. Its
formula stays as it was. -/
def replaceCell (find new : String) (c : Cell) : Cell :=
  { c with raw := replaceText find new c.raw, computed := replaceValue find new c.computed }

/-- Whether a cell takes part in a replacement. -/
def isAffected (r : Range) (find : String) (a : Address) (c : Cell) : Bool :=
  r.contains a && Text.occurs find.toList c.raw.toList

/-- The stored cells of a range whose entered text holds a text, row by row. -/
def occurrences (g : Grid) (r : Range) (find : String) : List Address :=
  (g.filter (isAffected r find)).keys

/-- The sheet with a text replaced in a range. -/
def replaceWithin (s : Sheet) (r : Range) (find new : String) : Sheet :=
  let replaced := s.grid.map fun a c => if isAffected r find a c then replaceCell find new c else c
  s.settle replaced (occurrences s.grid r find)

/-- The number of cells between two corners that hold a text, and the sheet with another text in
its place. The empty text is never replaced. -/
def replace (s : Sheet) (first last find new : String) : Except SheetError (Nat × Sheet) :=
  (rangeBetween first last).map fun r =>
    if find.isEmpty then (0, s)
    else ((occurrences s.grid r find).length, s.replaceWithin r find new)

end Spreadsheet.Sheet
