import Spreadsheet.Dependency.Cycle
import Spreadsheet.Dependency.Order
import Spreadsheet.Formula.Evaluation

/-!
# Recalculation

Formula cells are recomputed when what they read has changed, each after those it reads.

* `Grid.result` is the value that an entry has over a grid: the circular error if it leads into a
  cycle, what it evaluates to otherwise.
* `Grid.propagate` recomputes the formula cells that depend on some cells, and
  `Grid.recalculate` all formula cells.
-/

namespace Spreadsheet.Grid

/-- The value of an entry at an address over a grid with a known dependency graph. -/
def result (registry : Registry) (graph : Graph) (g : Grid) (a : Address) (text : String) : Value :=
  if Formula.isFormula text && graph.hasCycle a (Formula.dependencies text) then .error .circular
  else Formula.evaluate registry g.value text

/-- The grid with the cell at an address recomputed, if it holds a formula. -/
def recompute (registry : Registry) (graph : Graph) (g : Grid) (a : Address) : Grid :=
  match g.formula? a with
  | some formula => g.setValue a (g.result registry graph a formula)
  | none => g

/-- The grid with some cells recomputed in turn. -/
def recomputeAll (registry : Registry) (graph : Graph) (g : Grid) (cells : List Address) : Grid :=
  cells.foldl (recompute registry graph) g

/-- The grid after a change to some cells: the formula cells that depend on them are recomputed,
while the cells themselves keep their values. -/
def propagate (registry : Registry) (g : Grid) (sources : List Address) : Grid :=
  let graph := g.graph
  recomputeAll registry graph g (graph.within (graph.dependents sources)).order

/-- The grid with every formula cell recomputed. -/
def recalculate (registry : Registry) (g : Grid) : Grid :=
  let graph := g.graph
  recomputeAll registry graph g graph.order

end Spreadsheet.Grid
