import Spreadsheet.Address

/-!
# Errors of sheet operations

* `Axis` is one of the two directions of a sheet.
* `SheetError` lists why an operation on a sheet is refused, and `SheetError.message` words it.

What goes wrong in a formula is no error here: it is stored in the cell as a `CellError`.
-/

namespace Spreadsheet

/-- Rows or columns. -/
inductive Axis
  | row
  | column
  deriving DecidableEq, Repr

namespace Axis

/-- The name of an axis. -/
def name : Axis → String
  | row => "row"
  | column => "column"

/-- The coordinate of an address on an axis. -/
def coord : Axis → Address → Coord
  | row, a => a.row
  | column, a => a.column

/-- The address with another coordinate on an axis. -/
def withCoord : Axis → Address → Coord → Address
  | row, a, k => { a with row := k }
  | column, a, k => { a with column := k }

end Axis

/-- Why an operation on a sheet is refused. -/
inductive SheetError
  /-- A text that names no cell. -/
  | invalidAddress (text : String)
  | emptyClipboard
  /-- A configuration document that cannot be read. -/
  | invalidConfig
  /-- A sheet without rows or without columns. -/
  | emptyAxis (axis : Axis)
  deriving DecidableEq, Repr

/-- The wording of an error. -/
def SheetError.message : SheetError → String
  | invalidAddress text => "Invalid cell reference: " ++ text
  | emptyClipboard => "Clipboard is empty"
  | invalidConfig => "Invalid configuration"
  | emptyAxis axis => "Grid must have at least one " ++ axis.name

namespace Address

/-- The address that a text names, or the error that it names none. -/
def ofText (text : String) : Except SheetError Address :=
  match parse? text with
  | some a => .ok a
  | none => .error (.invalidAddress text)

end Address

end Spreadsheet
