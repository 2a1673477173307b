import Spreadsheet.Sheet.Clipboard
import Spreadsheet.Sheet.Structure

/-!
# Edits and histories

* `Edit` lists the operations that change a sheet, and `Sheet.perform` carries one out.
* `Sheet.run` carries out a history of edits; one that is refused leaves the sheet as it is.
-/

namespace Spreadsheet

/-- An operation that changes a sheet. Cells are named by labels. -/
inductive Edit
  | setText (label text : String)
  | setStyle (label : String) (patch : StylePatch)
  | clear (label : String)
  | insert (axis : Axis) (i : Coord)
  | delete (axis : Axis) (i : Coord)
  | copy (first last : String)
  | cut (first last : String)
  | paste (target : String)
  | removeDuplicates (first last : String)
  | replace (first last find new : String)
  | setSize (axis : Axis) (i : Coord) (size : UInt32)
  | register (name : String) (operation : Operation)
  | recalculate

/-- What an edit answers. -/
inductive Answer
  | done
  | flag (value : Bool)
  | count (n : Nat)
  deriving DecidableEq, Repr

namespace Sheet

/-- The answer of an edit and the sheet after it. -/
def perform (s : Sheet) : Edit → Except SheetError (Answer × Sheet)
  | .setText label text => (s.setText label text).map fun s => (.done, s)
  | .setStyle label patch => (s.setStyle label patch).map fun s => (.done, s)
  | .clear label => (s.clear label).map fun (found, s) => (.flag found, s)
  | .insert axis i => .ok (.done, s.insertLine axis i)
  | .delete axis i => .ok (.done, s.deleteLine axis i)
  | .copy first last => (s.copy first last).map fun (n, s) => (.count n, s)
  | .cut first last => (s.cut first last).map fun (n, s) => (.count n, s)
  | .paste target => (s.paste target).map fun (n, s) => (.count n, s)
  | .removeDuplicates first last =>
    (s.removeDuplicates first last).map fun (n, s) => (.count n, s)
  | .replace first last find new =>
    (s.replace first last find new).map fun (n, s) => (.count n, s)
  | .setSize axis i size => .ok (.done, s.setSize axis i size)
  | .register name operation =>
    .ok (.flag (s.registry.contains (Registry.canonical name)), s.register name operation)
  | .recalculate => .ok (.done, s.recalculate)

/-- The sheet after an edit. -/
def apply (s : Sheet) (e : Edit) : Sheet :=
  match s.perform e with
  | .ok (_, after) => after
  | .error _ => s

/-- The sheet after a history of edits. -/
def run (s : Sheet) (history : List Edit) : Sheet :=
  history.foldl apply s

end Sheet

end Spreadsheet
