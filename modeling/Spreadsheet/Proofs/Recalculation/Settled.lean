import Spreadsheet.Proofs.Formula.Coverage
import Spreadsheet.Proofs.Recalculation.Recompute

/-!
# Settled grids

A grid is settled when every formula cell holds the value that its formula has over the grid: the
circular error if the formula leads to a cycle, what it evaluates to otherwise. Recomputation can
only achieve this for formulas that are covered.

* `Grid.isSettled_recalculate`: a full recalculation settles a grid.
* `Grid.isSettled_propagate`: so does propagation from some sources if all but their dependents are
  settled. `Grid.isSettledAt_propagate` says it of one cell.
* `Grid.IsSettledAt.of_change`: a change to some cells leaves all but their dependents settled.
-/

namespace Spreadsheet

open Relation

variable {registry : Registry}

/-- Formulas that start with an equals sign and are covered. -/
def Formula.IsReliable (registry : Registry) (text : String) : Prop :=
  isFormula text = true ∧ IsCovered registry text

namespace Grid

open Spreadsheet.Graph

variable {g h : Grid} {a b : Address} {f : String} {cells sources : List Address}

/-- The cell at an address, if it holds a formula, has the value of its formula over the grid. -/
def IsSettledAt (registry : Registry) (g : Grid) (a : Address) : Prop :=
  ∀ f, g.formula? a = some f →
    g.value a =
      if g.graph.hasCycle a (Formula.dependencies f) then .error .circular
      else Formula.evaluate registry g.value f

/-- Every formula cell has the value of its formula over the grid. -/
def IsSettled (registry : Registry) (g : Grid) : Prop :=
  ∀ a, g.IsSettledAt registry a

/-- Being settled in terms of paths. -/
theorem isSettledAt_iff (hf : g.formula? a = some f) :
    g.IsSettledAt registry a ↔
      (g.graph.LeadsToCycle a → g.value a = .error .circular) ∧
        (¬g.graph.LeadsToCycle a → g.value a = Formula.evaluate registry g.value f) := by
  have hiff : g.IsSettledAt registry a ↔ g.value a =
      if g.graph.hasCycle a (Formula.dependencies f) then .error .circular
      else Formula.evaluate registry g.value f := by
    refine ⟨fun h => h f hf, fun h f' hf' => ?_⟩
    obtain rfl : f = f' := Option.some.inj (hf.symm.trans hf')
    exact h
  by_cases hcycle : g.graph.LeadsToCycle a
  · simp [hiff, hcycle, (hasCycle_graph_iff hf).2 hcycle]
  · simp [hiff, hcycle, mt (hasCycle_graph_iff hf).1 hcycle]

/-- A settled cell that leads to a cycle is marked. -/
theorem IsSettledAt.isMarkedAt (h : g.IsSettledAt registry a) : g.IsMarkedAt a := by
  intro hcycle
  obtain ⟨f, hf⟩ := formula?_of_leadsToCycle hcycle
  exact ((isSettledAt_iff hf).1 h).1 hcycle

theorem isSettledAt_of_formula?_eq_none (hf : g.formula? a = none) : g.IsSettledAt registry a :=
  fun f hf' => by simp [hf] at hf'

/-- Being settled is a matter of formulas and values. -/
theorem IsSettled.congr (hg : g.IsSettled registry) (hformula : ∀ a, h.formula? a = g.formula? a)
    (hvalue : ∀ a, h.value a = g.value a) : h.IsSettled registry := by
  intro a f hf
  rw [hvalue, graph_congr hformula, show h.value = g.value from funext hvalue]
  exact hg a f (hformula a ▸ hf)

/-- What a formula comes to is settled, once it is stored and nothing that it reads has changed. -/
theorem isSettledAt_of_result (hf : g.formula? a = some f)
    (hreliable : Formula.IsReliable registry f)
    (hvalue : g.value a = h.result registry g.graph a f)
    (hreads : ¬g.graph.LeadsToCycle a → ∀ b, g.graph.Reads a b → h.value b = g.value b) :
    g.IsSettledAt registry a := by
  refine (isSettledAt_iff hf).2 ⟨fun hcycle => ?_, fun hcycle => ?_⟩
  · rw [hvalue, result_of_leadsToCycle hf hreliable.1 hcycle]
  · have hcheck := mt (hasCycle_graph_iff hf).1 hcycle
    rw [hvalue, result, hreliable.1, Bool.true_and, if_neg hcheck]
    exact hreliable.2 _ _ fun b hb => hreads hcycle b ((reads_graph_iff hf).2 hb)

/-! ## Recomputation -/

/-- Cells that are recomputed in order are settled: what each of them reads is not recomputed after
it, unless it leads to a cycle. -/
theorem isSettledAt_recomputeAll (hg : g.FormulasSatisfy (Formula.IsReliable registry))
    (hnodup : cells.Nodup)
    (hordered : cells.Pairwise fun a b => g.graph.Reads a b → g.graph.LeadsToCycle a) :
    ∀ a ∈ cells, (g.recomputeAll registry g.graph cells).IsSettledAt registry a := by
  induction cells generalizing g with
  | nil => simp
  | cons x cells ih =>
    obtain ⟨hx, hnodup⟩ := List.nodup_cons.1 hnodup
    obtain ⟨hfirst, hordered⟩ := List.pairwise_cons.1 hordered
    have hrest := @ih (g.recompute registry g.graph x) (by simpa [FormulasSatisfy] using hg) hnodup
      (by simpa using hordered)
    rw [graph_recompute] at hrest
    refine List.forall_mem_cons.2 ⟨?_, hrest⟩
    cases hf : g.formula? x with
    | none => exact isSettledAt_of_formula?_eq_none (by simpa using hf)
    | some f =>
      refine isSettledAt_of_result (h := g) (by simpa using hf) (hg x f hf) ?_ fun hcycle b hb => ?_
      · rw [graph_recomputeAll, recomputeAll_cons,
          value_congr (getElem?_recomputeAll hx), value_recompute_self hf]
      · rw [graph_recomputeAll] at hcycle hb
        have hxb : x ≠ b := fun h => hcycle (leadsToCycle_of_transGen (.single (h ▸ hb)))
        have hb' : b ∉ cells := fun h => hcycle (hfirst b h hb)
        refine value_congr (getElem?_recomputeAll ?_).symm
        simp [Ne.symm hxb, hb']

/-- **A full recalculation settles a grid**, whatever its cells held before. -/
theorem isSettled_recalculate (hg : g.FormulasSatisfy (Formula.IsReliable registry)) :
    (g.recalculate registry).IsSettled registry := by
  intro a
  cases hf : g.formula? a with
  | none => exact isSettledAt_of_formula?_eq_none (by simpa using hf)
  | some f =>
    refine isSettledAt_recomputeAll hg (nodup_order _) (pairwise_order _) a (mem_order_iff.2 ?_)
    exact mem_graph_iff.2 (by rw [hf]; rfl)

theorem isSettledAt_propagate_of_mem (hg : g.FormulasSatisfy (Formula.IsReliable registry))
    (ha : a ∈ g.graph.dependents sources) : (g.propagate registry sources).IsSettledAt registry a :=
  isSettledAt_recomputeAll hg (nodup_order _) (pairwise_order_within _ _) a
    (mem_order_within_iff.2 ⟨mem_graph_of_dependents ha, ha⟩)

/-- After propagation a cell is settled if it is a dependent or was settled before. A source that
reads a dependent has to lead to a cycle, since the sources are not recomputed. -/
theorem isSettledAt_propagate (hg : g.FormulasSatisfy (Formula.IsReliable registry))
    (hrest : a ∉ g.graph.dependents sources → g.IsSettledAt registry a)
    (hsource : a ∈ sources → ∀ b ∈ g.graph.dependents sources, g.graph.Reads a b →
      g.graph.LeadsToCycle a) : (g.propagate registry sources).IsSettledAt registry a := by
  by_cases ha : a ∈ g.graph.dependents sources
  · exact isSettledAt_propagate_of_mem hg ha
  cases hf : g.formula? a with
  | none => exact isSettledAt_of_formula?_eq_none (by simpa using hf)
  | some f =>
    have hvalue : (g.propagate registry sources).value a = g.value a :=
      value_congr (getElem?_propagate ha)
    obtain ⟨hcircular, hproper⟩ := (isSettledAt_iff hf).1 (hrest ha)
    refine (isSettledAt_iff (by simpa using hf)).2 ?_
    rw [graph_propagate, hvalue]
    refine ⟨hcircular, fun hcycle => (hproper hcycle).trans ((hg a f hf).2 _ _ fun b hb => ?_)⟩
    have hab : g.graph.Reads a b := (reads_graph_iff hf).2 hb
    refine (value_congr (getElem?_propagate fun hb' => ?_)).symm
    -- a cell that reads a dependent is a dependent itself or a source
    by_cases hs : a ∈ sources
    · exact hcycle (hsource hs b hb' hab)
    · obtain ⟨-, s, hs', hbs⟩ := mem_dependents_iff.1 hb'
      exact ha (mem_dependents_iff.2 ⟨hs, s, hs', .head hab hbs⟩)

/-- **Propagation settles a grid** of which only the dependents of the sources were not settled. -/
theorem isSettled_propagate (hg : g.FormulasSatisfy (Formula.IsReliable registry))
    (hrest : ∀ a, a ∉ g.graph.dependents sources → g.IsSettledAt registry a)
    (hsources : ∀ s ∈ sources, ∀ b ∈ g.graph.dependents sources, g.graph.Reads s b →
      g.graph.LeadsToCycle s) : (g.propagate registry sources).IsSettled registry :=
  fun a => isSettledAt_propagate hg (hrest a) (hsources a)

/-! ## Changes -/

/-- A change to some cells leaves the cells settled that are neither changed nor dependents. -/
theorem IsSettledAt.of_change (hgh : ∀ b, b ∉ sources → g[b]? = h[b]?) (hs : a ∉ sources)
    (ha : a ∉ h.graph.dependents sources)
    (hh : ∀ f, h.formula? a = some f → Formula.IsReliable registry f)
    (hsettled : g.IsSettledAt registry a) : h.IsSettledAt registry a := by
  cases hf : h.formula? a with
  | none => exact isSettledAt_of_formula?_eq_none hf
  | some f =>
    have hfg : g.formula? a = some f := (formula?_congr (hgh a hs)).trans hf
    obtain ⟨hcircular, hproper⟩ := (isSettledAt_iff hfg).1 hsettled
    rw [isSettledAt_iff hf, leadsToCycle_of_change hgh hs ha, ← value_congr (hgh a hs)]
    refine ⟨hcircular, fun hc => (hproper hc).trans ((hh f hf).2 _ _ fun b hb => ?_)⟩
    exact value_congr (hgh b (notMem_of_reads hs ha (.single ((reads_graph_iff hf).2 hb))))

end Grid

end Spreadsheet
