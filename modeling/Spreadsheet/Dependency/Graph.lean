import Spreadsheet.Address.Set
import Spreadsheet.Formula.Dependency
import Spreadsheet.Grid

/-!
# The dependency graph

The dependency graph of a grid leads from every formula cell to the cells that its formula reads.

* `Graph.ofFormulas` reads the graph off stored formulas, `Grid.graph` off a grid.
* `Graph.readers` turns the edges around.
* `Graph.dependents` collects the formula cells that read some cells directly or through other
  formulas.
-/

namespace Spreadsheet

/-- For every formula cell, the cells that its formula reads. -/
abbrev Graph := Std.ExtTreeMap Address (List Address)

/-- The dependency graph of a grid. -/
def Grid.graph (g : Grid) : Graph :=
  g.filterMap fun _ c => c.formula.map Formula.dependencies

namespace Graph

/-- The dependency graph of some formulas. -/
def ofFormulas (formulas : Std.ExtTreeMap Address String) : Graph :=
  formulas.map fun _ formula => Formula.dependencies formula

/-- Erasing a formula cell leaves a smaller graph. -/
theorem size_erase_lt {g : Graph} {a : Address} (h : a ∈ g) : (g.erase a).size < g.size := by
  have hpos : g.size ≠ 0 := by
    intro h0
    rw [← Std.ExtTreeMap.eq_empty_iff_size_eq_zero] at h0
    simp [h0] at h
  rw [Std.ExtTreeMap.size_erase, if_pos (Std.ExtTreeMap.contains_iff_mem.2 h)]
  omega

theorem mem_of_getElem? {g : Graph} {a : Address} {reads : List Address}
    (h : g[a]? = some reads) : a ∈ g := by
  rw [Std.ExtTreeMap.mem_iff_isSome_getElem?, h]
  rfl

/-- The graph with one more reader of every cell of a list. -/
def addReader (g : Graph) (reader : Address) (cells : List Address) : Graph :=
  cells.foldl (fun g a => g.insert a (reader :: g.getD a [])) g

/-- The graph turned around: for every cell that is read, the formula cells that read it. -/
def readers (g : Graph) : Graph :=
  g.foldl (fun turned reader cells => turned.addReader reader cells) ∅

/-- The part of a list from the first cell on that belongs to a graph. -/
def fromMember (g : Graph) (cells : List Address) : List Address :=
  cells.dropWhile fun a => !g.contains a

theorem mem_of_fromMember {g : Graph} {cells rest : List Address} {a : Address}
    (h : g.fromMember cells = a :: rest) : a ∈ g := by
  have := List.head?_dropWhile_not (fun a => !g.contains a) cells
  rw [show cells.dropWhile (fun a => !g.contains a) = a :: rest from h] at this
  simpa using this

/-- The formula cells of `remaining` that are reached from a list of cells, each once: a cell is
taken out of `remaining` when it is met, and its readers are looked at in turn. -/
def reached (readers remaining : Graph) (frontier : List Address) : List Address :=
  match _h : remaining.fromMember frontier with
  | [] => []
  | a :: rest => a :: reached readers (remaining.erase a) (readers.getD a [] ++ rest)
termination_by remaining.size
decreasing_by exact size_erase_lt (mem_of_fromMember _h)

/-- The formula cells that read one of the sources, directly or through other formula cells. The
sources themselves are left out, and so are the paths through them. -/
def dependents (g : Graph) (sources : List Address) : List Address :=
  let readers := g.readers
  let remaining := sources.foldl (fun g a => g.erase a) g
  reached readers remaining (sources.flatMap fun a => readers.getD a [])

end Graph

end Spreadsheet
