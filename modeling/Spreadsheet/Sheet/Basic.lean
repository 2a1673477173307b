import Spreadsheet.Config.Basic
import Spreadsheet.Grid
import Spreadsheet.Range
import Spreadsheet.Registry.Builtin
import Spreadsheet.Sheet.Sizes
import Spreadsheet.Text.Quotation

/-!
# Sheets

* `Sheet` is the state of a sheet: its cells, the functions for its formulas, its dimensions and
  sizes, and a clipboard.
* `Sheet.new` is a sheet without cells.
* `Sheet.cell`, `Sheet.display` and `Sheet.size?` read it, `Sheet.summary` describes it.
-/

namespace Spreadsheet

/-- Cells that were copied, at the addresses they were copied from. -/
structure Clipboard where
  /-- The corner that pasting moves to its target. -/
  anchor : Address
  cells : Grid

/-- The state of a sheet. -/
structure Sheet where
  grid : Grid
  registry : Registry
  config : Config
  rowHeights : Sizes
  columnWidths : Sizes
  clipboard : Option Clipboard

namespace Sheet

/-- A sheet without cells. -/
def blank (config : Config) (registry : Registry) : Sheet where
  grid := ∅
  registry := registry
  config := config
  rowHeights := .uniform config.defaultRowHeight config.rows
  columnWidths := .uniform config.defaultColumnWidth config.columns
  clipboard := none

/-- A sheet without cells, if its dimensions are allowed. -/
def new (config : Config) (registry : Registry) : Except SheetError Sheet :=
  config.validate.map fun config => blank config registry

/-- The range between two corners that are named by labels; the first is looked at first. -/
def rangeBetween (first last : String) : Except SheetError Range := do
  let a ← Address.ofText first
  let b ← Address.ofText last
  return .between a b

/-- The range that a text names. -/
def rangeOfText (text : String) : Except SheetError Range :=
  match Range.parse? text with
  | some r => .ok r
  | none => .error (.invalidAddress text)

/-! ## Reading -/

/-- The cell at an address, an empty one if none is stored there. -/
def cell (s : Sheet) (label : String) : Except SheetError Cell :=
  (Address.ofText label).map fun a => s.grid.getD a {}

/-- The text by which a cell is shown. -/
def display (s : Sheet) (label : String) : Except SheetError String :=
  (Address.ofText label).map fun a => (s.grid.value a).display

/-- The sizes of an axis. -/
def sizes (s : Sheet) : Axis → Sizes
  | .row => s.rowHeights
  | .column => s.columnWidths

/-- The size of a line, if the sheet has it. -/
def size? (s : Sheet) (axis : Axis) (i : Coord) : Option UInt32 :=
  (s.sizes axis).get? i.val

/-- A description of the sheet in one line. -/
def summary (s : Sheet) : String :=
  let c := s.config
  let names := ", ".intercalate (s.registry.names.map fun n => Text.quoteText n.toList)
  "Sheet \x7b cells: " ++ toString s.grid.size ++
    ", config: SheetConfig \x7b rows: " ++ toString c.rows ++
    ", columns: " ++ toString c.columns ++
    ", default_row_height: " ++ toString c.defaultRowHeight ++
    ", default_column_width: " ++ toString c.defaultColumnWidth ++
    " \x7d, functions: FunctionRegistry \x7b functions: [" ++ names ++ "] \x7d \x7d"

/-! ## Writing -/

/-- The sheet with other sizes of an axis. -/
def withSizes (s : Sheet) (axis : Axis) (sizes : Sizes) : Sheet :=
  match axis with
  | .row => { s with rowHeights := sizes }
  | .column => { s with columnWidths := sizes }

/-- The sheet with another size of a line; a line that the sheet does not have is passed over. -/
def setSize (s : Sheet) (axis : Axis) (i : Coord) (size : UInt32) : Sheet :=
  s.withSizes axis ((s.sizes axis).set i.val size)

/-- The sheet with one more function. Values that are computed already stay as they are. -/
def register (s : Sheet) (name : String) (operation : Operation) : Sheet :=
  { s with registry := s.registry.register name operation }

end Sheet

end Spreadsheet
