import Spreadsheet.Proofs.Dependency.Cycle
import Spreadsheet.Proofs.Dependency.Order
import Spreadsheet.Recalculation

/-!
# What recomputation changes

Recomputing cells changes computed values only, so the formulas and with them the dependency graph
stay as they are, and so does every cell that is not recomputed.

* `Grid.getElem?_propagate`, `Grid.formula?_propagate`, `Grid.formula?_recalculate` say what stays.
* `Grid.IsMarked` says that the cells that lead to a cycle hold the circular error. A full
  recalculation brings this about (`Grid.isMarked_recalculate`), and propagation restores it
  (`Grid.isMarked_propagate`).
-/

namespace Spreadsheet.Grid

open Relation Spreadsheet.Graph

variable {registry : Registry} {graph : Graph} {g h : Grid} {a b : Address} {f : String}
  {cells sources : List Address}

/-! ## The dependency graph of a grid -/

theorem getElem?_graph (g : Grid) (a : Address) :
    g.graph[a]? = (g.formula? a).map Formula.dependencies := by
  rw [Grid.graph, formula?, Std.ExtTreeMap.getElem?_filterMap']
  cases g[a]? <;> rfl

theorem getElem?_graph_of_formula? (hf : g.formula? a = some f) :
    g.graph[a]? = some (Formula.dependencies f) := by
  rw [getElem?_graph, hf]
  rfl

theorem mem_graph_iff : a ∈ g.graph ↔ (g.formula? a).isSome := by
  rw [Std.ExtTreeMap.mem_iff_isSome_getElem?, getElem?_graph, Option.isSome_map]

theorem reads_graph_iff (hf : g.formula? a = some f) :
    g.graph.Reads a b ↔ b ∈ Formula.dependencies f :=
  reads_iff (getElem?_graph_of_formula? hf)

/-- Grids with the same formulas have the same graph. -/
theorem graph_congr (hgh : ∀ a, g.formula? a = h.formula? a) : g.graph = h.graph :=
  Std.ExtTreeMap.ext_getElem? fun {a} => by rw [getElem?_graph, getElem?_graph, hgh]

/-- The cycle check of a stored formula. -/
theorem hasCycle_graph_iff (hf : g.formula? a = some f) :
    g.graph.hasCycle a (Formula.dependencies f) = true ↔ g.graph.LeadsToCycle a :=
  hasCycle_iff_of_getElem? (getElem?_graph_of_formula? hf)

theorem formula?_of_leadsToCycle (ha : g.graph.LeadsToCycle a) : ∃ f, g.formula? a = some f :=
  Option.isSome_iff_exists.1 (mem_graph_iff.1 ha.mem)

/-! ## Values and formulas at an address -/

theorem value_congr (hgh : g[a]? = h[a]?) : g.value a = h.value a := by
  rw [value, hgh, value]

theorem formula?_congr (hgh : g[a]? = h[a]?) : g.formula? a = h.formula? a := by
  rw [formula?, hgh, formula?]

theorem value_setValue_self {v : Value} (ha : a ∈ g) : (g.setValue a v).value a = v := by
  obtain ⟨c, hc⟩ := mem_iff_exists.1 ha
  simp [value, getElem?_setValue, hc, Cell.compute]

/-- A cell keeps its own value. -/
theorem setValue_value_self (g : Grid) (a : Address) : g.setValue a (g.value a) = g := by
  refine Std.ExtTreeMap.ext_getElem? fun {b} => ?_
  rw [getElem?_setValue]
  split
  · rename_i hab
    subst hab
    unfold value
    cases g[a]? <;> rfl
  · rfl

theorem exists_of_formula? (hf : g.formula? a = some f) :
    ∃ c, g[a]? = some c ∧ c.formula = some f :=
  Option.bind_eq_some_iff.1 hf

theorem formula?_of_getElem? {c : Cell} (hc : g[a]? = some c) : g.formula? a = c.formula := by
  rw [formula?, hc]
  rfl

theorem mem_of_formula? (hf : g.formula? a = some f) : a ∈ g := by
  obtain ⟨c, hc, -⟩ := exists_of_formula? hf
  exact mem_iff_exists.2 ⟨c, hc⟩

/-! ## Recomputing -/

@[simp] theorem formula?_recompute (g : Grid) :
    (g.recompute registry graph a).formula? b = g.formula? b := by
  unfold recompute
  split <;> simp

theorem getElem?_recompute_of_ne (hab : a ≠ b) :
    (g.recompute registry graph a)[b]? = g[b]? := by
  unfold recompute
  split
  · rw [getElem?_setValue, if_neg hab]
  · rfl

theorem value_recompute_self (hf : g.formula? a = some f) :
    (g.recompute registry graph a).value a = g.result registry graph a f := by
  rw [recompute, hf]
  exact value_setValue_self (mem_of_formula? hf)

theorem recomputeAll_cons (g : Grid) :
    g.recomputeAll registry graph (a :: cells) =
      (g.recompute registry graph a).recomputeAll registry graph cells := rfl

@[simp] theorem formula?_recomputeAll (g : Grid) :
    (g.recomputeAll registry graph cells).formula? b = g.formula? b := by
  induction cells generalizing g with
  | nil => rfl
  | cons a cells ih => rw [recomputeAll_cons, ih, formula?_recompute]

theorem getElem?_recomputeAll (hb : b ∉ cells) :
    (g.recomputeAll registry graph cells)[b]? = g[b]? := by
  induction cells generalizing g with
  | nil => rfl
  | cons a cells ih =>
    obtain ⟨hba, hb⟩ := not_or.1 (List.mem_cons.not.1 hb)
    rw [recomputeAll_cons, ih hb, getElem?_recompute_of_ne (Ne.symm hba)]

@[simp] theorem graph_recompute (g : Grid) : (g.recompute registry graph a).graph = g.graph :=
  graph_congr fun _ => formula?_recompute g

@[simp] theorem graph_recomputeAll (g : Grid) :
    (g.recomputeAll registry graph cells).graph = g.graph :=
  graph_congr fun _ => formula?_recomputeAll g

/-- Recomputing stores no cells and drops none. -/
@[simp] theorem size_recompute (g : Grid) : (g.recompute registry graph a).size = g.size := by
  unfold recompute
  split
  · exact Std.ExtTreeMap.size_modify
  · rfl

@[simp] theorem size_recomputeAll (g : Grid) :
    (g.recomputeAll registry graph cells).size = g.size := by
  induction cells generalizing g with
  | nil => rfl
  | cons a cells ih => rw [recomputeAll_cons, ih, size_recompute]

/-! ## Propagation and full recalculation -/

theorem getElem?_propagate (ha : a ∉ g.graph.dependents sources) :
    (g.propagate registry sources)[a]? = g[a]? :=
  getElem?_recomputeAll fun h => ha (mem_order_within_iff.1 h).2

@[simp] theorem formula?_propagate (g : Grid) :
    (g.propagate registry sources).formula? a = g.formula? a :=
  formula?_recomputeAll g

@[simp] theorem graph_propagate (g : Grid) : (g.propagate registry sources).graph = g.graph :=
  graph_recomputeAll g

/-- A full recalculation leaves the cells without formulas alone. -/
theorem getElem?_recalculate (ha : g.formula? a = none) : (g.recalculate registry)[a]? = g[a]? := by
  refine getElem?_recomputeAll fun hmem => ?_
  rw [mem_order_iff, mem_graph_iff, ha] at hmem
  cases hmem

@[simp] theorem formula?_recalculate (g : Grid) :
    (g.recalculate registry).formula? a = g.formula? a :=
  formula?_recomputeAll g

@[simp] theorem size_recalculate (g : Grid) : (g.recalculate registry).size = g.size :=
  size_recomputeAll g

@[simp] theorem graph_recalculate (g : Grid) : (g.recalculate registry).graph = g.graph :=
  graph_recomputeAll g

/-- The dependents are formula cells. -/
theorem mem_graph_of_dependents (ha : a ∈ g.graph.dependents sources) : a ∈ g.graph := by
  obtain ⟨-, s, -, has⟩ := mem_dependents_iff.1 ha
  obtain ⟨b, hab, -⟩ := Relation.TransGen.head'_iff.1 has
  exact hab.mem

/-! ## The circular error -/

/-- Every stored formula of a grid satisfies `P`. -/
def FormulasSatisfy (P : String → Prop) (g : Grid) : Prop :=
  ∀ a f, g.formula? a = some f → P f

/-- Every stored formula of a grid starts with an equals sign. -/
abbrev HoldsFormulas (g : Grid) : Prop :=
  g.FormulasSatisfy fun f => Formula.isFormula f = true

/-- The value of a formula that leads to a cycle. -/
theorem result_of_leadsToCycle (hf : g.formula? a = some f) (hformula : Formula.isFormula f = true)
    (ha : g.graph.LeadsToCycle a) : h.result registry g.graph a f = .error .circular := by
  rw [result, hformula, (hasCycle_graph_iff hf).2 ha]
  rfl

/-- A recomputed cell that leads to a cycle holds the circular error. -/
theorem value_recomputeAll_of_leadsToCycle
    (hg : g.HoldsFormulas) (ha : g.graph.LeadsToCycle a)
    (hmem : a ∈ cells) : (g.recomputeAll registry g.graph cells).value a = .error .circular := by
  induction cells generalizing g with
  | nil => cases hmem
  | cons b cells ih =>
    rw [recomputeAll_cons]
    by_cases hcells : a ∈ cells
    · have := @ih (g.recompute registry g.graph b) (by simpa [FormulasSatisfy] using hg)
        (by simpa using ha) hcells
      simpa using this
    · obtain rfl : a = b := (List.mem_cons.1 hmem).resolve_right hcells
      obtain ⟨f, hf⟩ := formula?_of_leadsToCycle ha
      rw [value_congr (getElem?_recomputeAll hcells), value_recompute_self hf]
      exact result_of_leadsToCycle hf (hg a f hf) ha

theorem value_propagate_of_leadsToCycle
    (hg : g.HoldsFormulas) (ha : g.graph.LeadsToCycle a)
    (hmem : a ∈ g.graph.dependents sources) :
    (g.propagate registry sources).value a = .error .circular :=
  value_recomputeAll_of_leadsToCycle hg ha
    (mem_order_within_iff.2 ⟨mem_graph_of_dependents hmem, hmem⟩)

theorem value_recalculate_of_leadsToCycle
    (hg : g.HoldsFormulas) (ha : g.graph.LeadsToCycle a) :
    (g.recalculate registry).value a = .error .circular :=
  value_recomputeAll_of_leadsToCycle hg ha (mem_order_iff.2 ha.mem)

/-! ## Marked cells -/

/-- The cell at an address holds the circular error if it leads to a cycle. -/
def IsMarkedAt (g : Grid) (a : Address) : Prop :=
  g.graph.LeadsToCycle a → g.value a = .error .circular

/-- Every cell that leads to a cycle holds the circular error. -/
def IsMarked (g : Grid) : Prop :=
  ∀ a, g.IsMarkedAt a

theorem isMarked_recalculate (hg : g.HoldsFormulas) :
    (g.recalculate registry).IsMarked := fun a ha =>
  value_recalculate_of_leadsToCycle hg (by rwa [graph_recalculate] at ha)

/-- Propagation marks a grid of which only the dependents of the sources were not marked. -/
theorem isMarked_propagate (hg : g.HoldsFormulas)
    (hrest : ∀ a, a ∉ g.graph.dependents sources → g.IsMarkedAt a) :
    (g.propagate registry sources).IsMarked := by
  intro a ha
  rw [graph_propagate] at ha
  by_cases hmem : a ∈ g.graph.dependents sources
  · exact value_propagate_of_leadsToCycle hg ha hmem
  · rw [value_congr (getElem?_propagate hmem)]
    exact hrest a hmem ha

/-- What a cell reads is not changed if the cell itself is neither changed nor a dependent. -/
theorem notMem_of_reads (hs : a ∉ sources) (ha : a ∉ h.graph.dependents sources)
    (hab : ReflTransGen h.graph.Reads a b) : b ∉ sources := by
  intro hb
  rcases reflTransGen_iff_eq_or_transGen.1 hab with rfl | hab
  · exact hs hb
  · exact ha (mem_dependents_iff.2 ⟨hs, b, hb, hab⟩)

/-- A change to some cells makes no cycle for those that are neither changed nor dependents. -/
theorem leadsToCycle_of_change (hgh : ∀ b, b ∉ sources → g[b]? = h[b]?) (hs : a ∉ sources)
    (ha : a ∉ h.graph.dependents sources) : h.graph.LeadsToCycle a ↔ g.graph.LeadsToCycle a :=
  leadsToCycle_congr fun b hb => by
    rw [getElem?_graph, getElem?_graph, formula?_congr (hgh b (notMem_of_reads hs ha hb))]

/-- A change to some cells leaves the cells marked that are neither changed nor dependents. -/
theorem IsMarkedAt.of_change (hgh : ∀ b, b ∉ sources → g[b]? = h[b]?) (hs : a ∉ sources)
    (ha : a ∉ h.graph.dependents sources) (hmarked : g.IsMarkedAt a) : h.IsMarkedAt a := by
  rw [IsMarkedAt, leadsToCycle_of_change hgh hs ha, ← value_congr (hgh a hs)]
  exact hmarked

end Spreadsheet.Grid
