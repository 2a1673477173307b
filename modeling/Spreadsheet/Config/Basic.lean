import Spreadsheet.Sheet.Error

/-!
# Sheet configuration

* `Config` holds the dimensions of a sheet and the sizes that its rows and columns start with.
* `Config.validate` refuses a sheet without rows or columns.
-/

namespace Spreadsheet

/-- The dimensions of a sheet and the sizes of its rows and columns. -/
structure Config where
  rows : Nat := 100
  columns : Nat := 26
  defaultRowHeight : UInt32 := 25
  defaultColumnWidth : UInt32 := 100
  deriving DecidableEq, Repr, Inhabited

/-- The configuration itself, unless it leaves the sheet without rows or without columns. -/
def Config.validate (c : Config) : Except SheetError Config :=
  if c.rows == 0 then .error (.emptyAxis .row)
  else if c.columns == 0 then .error (.emptyAxis .column)
  else .ok c

end Spreadsheet
