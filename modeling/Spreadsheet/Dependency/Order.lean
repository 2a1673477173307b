import Spreadsheet.Dependency.Graph

/-!
# The order of evaluation

Formulas are evaluated after the formulas that they read.

* `Graph.order` lists the cells of a graph such that each comes after those it reads, as far as
  there are no cycles: depth first, starting from the cells in row-major order.
* `Graph.within` is the part of a graph that has to be evaluated.
-/

namespace Spreadsheet.Graph

/-- What is left to do for the order: look at a cell, or list it once all it reads has been
listed. -/
inductive Task
  | enter (a : Address)
  | leave (a : Address)
  deriving DecidableEq, Repr

/-- Carry out tasks up to the first that enters a cell of `remaining`: the cells that are listed on
the way, and that cell with the tasks after it. -/
def advance (remaining : Graph) : List Task → List Address × Option (Address × List Task)
  | [] => ([], none)
  | .leave a :: rest => (advance remaining rest).map (a :: ·) id
  | .enter a :: rest => if a ∈ remaining then ([], some (a, rest)) else advance remaining rest

theorem mem_of_advance {remaining : Graph} {tasks rest : List Task} {a : Address}
    (h : (advance remaining tasks).2 = some (a, rest)) : a ∈ remaining := by
  fun_induction advance remaining tasks with
  | case1 => simp at h
  | case2 b tasks ih => exact ih h
  | case3 b tasks hb =>
    obtain ⟨rfl, rfl⟩ : b = a ∧ tasks = rest := by simpa using h
    exact hb
  | case4 b tasks hb ih => exact ih h

/-- Carry out all tasks. `remaining` holds the cells that have not been entered; entering one
leaves the cells that it reads to be entered before the cell itself is left. -/
def orderFrom (remaining : Graph) (tasks : List Task) : List Address :=
  (advance remaining tasks).1 ++
    match _h : (advance remaining tasks).2 with
    | none => []
    | some (a, rest) =>
      orderFrom (remaining.erase a) ((remaining.getD a []).map .enter ++ .leave a :: rest)
termination_by remaining.size
decreasing_by exact size_erase_lt (mem_of_advance _h)

/-- The cells of a graph, each once and after the cells of the graph that it reads. -/
def order (g : Graph) : List Address :=
  orderFrom g (g.keys.map .enter)

/-- The part of a graph on some of its cells. -/
def within (g : Graph) (cells : List Address) : Graph :=
  let set := AddressSet.ofList cells
  g.filter fun a _ => set.contains a

end Spreadsheet.Graph
