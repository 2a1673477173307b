import Spreadsheet.Sheet.Content

/-!
# Inserting and deleting rows and columns

Cells move along an axis when a line is inserted or deleted. Formulas move with their cells and
keep their texts, so all of them are recomputed.

* `Axis.makeRoom` and `Axis.closeUp` say where a cell goes.
* `Sheet.insertLine` and `Sheet.deleteLine` carry the edits out.
-/

namespace Spreadsheet

namespace Axis

/-- Where a cell goes when a line is inserted at `i`: on from there by one. The cells on the last
line of the axis have nowhere to go. -/
def makeRoom (axis : Axis) (i : Coord) (a : Address) : Option Address :=
  let k := axis.coord a
  if k < i then some a else k.next?.map (axis.withCoord a)

/-- Where a cell goes when the line at `i` is deleted: back by one from behind it. The cells on the
line itself go nowhere. -/
def closeUp (axis : Axis) (i : Coord) (a : Address) : Option Address :=
  let k := axis.coord a
  if k < i then some a
  else if k = i then none
  else k.previous?.map (axis.withCoord a)

end Axis

namespace Sheet

/-- The sheet with an empty line inserted before index `i` of an axis. -/
def insertLine (s : Sheet) (axis : Axis) (i : Coord) : Sheet :=
  let moved := { s with grid := s.grid.relocate (axis.makeRoom i) }
  (moved.withSizes axis ((s.sizes axis).insert i.val)).recalculate

/-- The sheet with the line at index `i` of an axis deleted. -/
def deleteLine (s : Sheet) (axis : Axis) (i : Coord) : Sheet :=
  let moved := { s with grid := s.grid.relocate (axis.closeUp i) }
  (moved.withSizes axis ((s.sizes axis).delete i.val)).recalculate

end Sheet

end Spreadsheet
