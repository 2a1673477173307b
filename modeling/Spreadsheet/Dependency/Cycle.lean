import Spreadsheet.Dependency.Graph

/-!
# Cycles

A formula that reads its own cell, directly or through other formulas, can never settle; nor can
one that reads such a formula.

* `Graph.walk` follows the formulas that a list of cells leads to, depth first, and fails where it
  comes back to a cell of its own path.
* `Graph.hasCycle` says whether a formula at a cell leads into a cycle.
-/

namespace Spreadsheet.Graph

/-- Follow the formulas of some cells in turn. `remaining` holds the formula cells off the path;
`cleared` holds cells from which no cycle can be reached. The answer is the cleared cells, or
`none` if a cycle is found. -/
def walk (remaining : Graph) (path cleared : AddressSet) (cells : List Address) :
    Option AddressSet :=
  cells.foldlM (fun cleared a =>
    if a ∈ path then none
    else if a ∈ cleared then some cleared
    else match _h : remaining[a]? with
      | none => some cleared
      | some reads =>
        (walk (remaining.erase a) (path.insert a) cleared reads).map fun set => set.insert a)
    cleared
termination_by remaining.size
decreasing_by exact size_erase_lt (mem_of_getElem? _h)

/-- Whether a formula at `origin` that reads some cells leads into a cycle. What is stored at
`origin` in the graph plays no part. -/
def hasCycle (g : Graph) (origin : Address) (reads : List Address) : Bool :=
  (walk (g.erase origin) {origin} ∅ reads).isNone

end Spreadsheet.Graph
