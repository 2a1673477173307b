import Spreadsheet.Sheet.Content

/-!
# Copying, cutting and pasting

* `Sheet.copy` and `Sheet.cut` put the stored cells of a range on the clipboard, together with the
  first corner as the anchor.
* `Sheet.paste` writes them so that the anchor comes to lie on a target. Formulas are carried as
  they are, and so are values, except that a formula that leads into a cycle at its new place gets
  the circular error.
-/

namespace Spreadsheet

namespace Clipboard

/-- The stored cells between two corners, anchored at the first. -/
def snapshot (g : Grid) (first last : Address) : Clipboard :=
  ⟨first, g.restrict (Range.between first last).contains⟩

/-- The place to which a paste takes an address: along both axes it is moved by the distance from
the anchor to the target. It has none where that leaves the sheet. -/
def destination? (c : Clipboard) (target a : Address) : Option Address :=
  a.shift? (c.anchor.row.distanceTo target.row) (c.anchor.column.distanceTo target.column)

/-- The cells and the addresses at which they are pasted. A cell that would leave the sheet is left
out. -/
def placed (c : Clipboard) (target : Address) : List (Address × Cell) :=
  c.cells.toList.filterMap fun entry => (c.destination? target entry.1).map fun a => (a, entry.2)

end Clipboard

namespace Grid

/-- The grid with some cells written over its own. -/
def overwrite (g : Grid) (cells : List (Address × Cell)) : Grid :=
  cells.foldl (fun g entry => g.insert entry.1 entry.2) g

/-- The grid with the circular error in the cell at an address, if its formula leads into a
cycle. -/
def markCircular (graph : Graph) (g : Grid) (a : Address) : Grid :=
  match g.formula? a with
  | some formula =>
    if graph.hasCycle a (Formula.dependencies formula) then g.setValue a (.error .circular) else g
  | none => g

end Grid

namespace Sheet

/-- The number of stored cells between two corners, and the sheet with them on the clipboard. -/
def copy (s : Sheet) (first last : String) : Except SheetError (Nat × Sheet) := do
  let a ← Address.ofText first
  let b ← Address.ofText last
  let c := Clipboard.snapshot s.grid a b
  return (c.cells.size, { s with clipboard := some c })

/-- The sheet with the cells between two corners moved to the clipboard. -/
def take (s : Sheet) (first last : Address) : Sheet :=
  let c := Clipboard.snapshot s.grid first last
  let kept := s.grid.restrict fun a => !(Range.between first last).contains a
  { s with clipboard := some c }.settle kept c.cells.keys

/-- The number of stored cells between two corners, and the sheet with them moved to the
clipboard. -/
def cut (s : Sheet) (first last : String) : Except SheetError (Nat × Sheet) := do
  let a ← Address.ofText first
  let b ← Address.ofText last
  return ((Clipboard.snapshot s.grid a b).cells.size, s.take a b)

/-- The sheet with placed cells written into it. Cycles are looked for when all cells are in their
places, since they may read each other. -/
def place (s : Sheet) (cells : List (Address × Cell)) : Sheet :=
  let written := s.grid.overwrite cells
  let places := cells.map Prod.fst
  s.settle (places.foldl (Grid.markCircular written.graph) written) places

/-- The number of cells written, and the sheet with the clipboard pasted at a target. -/
def paste (s : Sheet) (target : String) : Except SheetError (Nat × Sheet) := do
  let a ← Address.ofText target
  match s.clipboard with
  | none => throw .emptyClipboard
  | some c =>
    if c.cells.isEmpty then throw .emptyClipboard
    let cells := c.placed a
    return (cells.length, s.place cells)

end Sheet

end Spreadsheet
