import Spreadsheet.Proofs.Recalculation.Settled

/-!
# Settled values are unique

The formulas of a grid admit only one settled state: whatever values the formula cells have lost,
recomputing them in order brings back the settled grid that has the same entries.

* `Grid.SameEntries` says that two grids differ in computed values only.
* `Grid.recomputeAll_eq`: recomputing in order restores a settled grid. Propagation
  (`Grid.propagate_eq`) and full recalculation (`Grid.recalculate_eq`) are the two cases, and a
  settled grid is left as it is (`Grid.recalculate_eq_self`).
* `Grid.eq_of_isSettled`: two settled grids with the same entries are equal if they agree on the
  cells without formulas. Grids with the same formulas still have the same values then
  (`Grid.value_eq_of_isSettled`).
-/

namespace Spreadsheet

/-- A cell without its computed value: its entry and its style. -/
def Cell.uncomputed (c : Cell) : Cell :=
  c.compute .null

namespace Grid

open Spreadsheet.Graph

variable {registry : Registry} {graph : Graph} {g h : Grid} {a b : Address} {f : String}
  {v : Value} {cells sources : List Address}

/-! ## Grids that differ in values only -/

theorem formula?_congr_uncomputed
    (hgh : g[a]?.map Cell.uncomputed = h[a]?.map Cell.uncomputed) :
    g.formula? a = h.formula? a := by
  have hformula (g : Grid) : g.formula? a = (g[a]?.map Cell.uncomputed).bind Cell.formula := by
    rw [formula?]
    cases g[a]? <;> rfl
  rw [hformula, hformula, hgh]

/-- The two grids store the same cells, computed values apart. -/
def SameEntries (g h : Grid) : Prop :=
  ∀ a : Address, g[a]?.map Cell.uncomputed = h[a]?.map Cell.uncomputed

namespace SameEntries

theorem refl (g : Grid) : g.SameEntries g := fun _ => rfl

theorem formula?_eq (hgh : g.SameEntries h) (a : Address) : g.formula? a = h.formula? a :=
  formula?_congr_uncomputed (hgh a)

theorem graph_eq (hgh : g.SameEntries h) : g.graph = h.graph :=
  graph_congr hgh.formula?_eq

theorem mem_iff (hgh : g.SameEntries h) : a ∈ g ↔ a ∈ h := by
  rw [Std.ExtTreeMap.mem_iff_isSome_getElem?, Std.ExtTreeMap.mem_iff_isSome_getElem?,
    ← Option.isSome_map (f := Cell.uncomputed), hgh a, Option.isSome_map]

theorem raw_eq (hgh : g.SameEntries h) (a : Address) : g.raw a = h.raw a := by
  have hraw (g : Grid) : g.raw a = ((g[a]?.map Cell.uncomputed).map Cell.raw).getD "" := by
    rw [raw]
    cases g[a]? <;> rfl
  rw [hraw, hraw, hgh a]

theorem setValue (hgh : g.SameEntries h) (a : Address) (v : Value) :
    (g.setValue a v).SameEntries h := by
  intro b
  rw [← hgh b, getElem?_setValue]
  split
  · cases g[b]? <;> rfl
  · rfl

theorem recompute (hgh : g.SameEntries h) (a : Address) :
    (g.recompute registry graph a).SameEntries h := by
  unfold Grid.recompute
  split
  · exact hgh.setValue _ _
  · exact hgh

theorem recomputeAll (hgh : g.SameEntries h) :
    (g.recomputeAll registry graph cells).SameEntries h := by
  induction cells generalizing g with
  | nil => exact hgh
  | cons a cells ih => exact ih (hgh.recompute a)

theorem propagate (hgh : g.SameEntries h) : (g.propagate registry sources).SameEntries h :=
  hgh.recomputeAll

theorem recalculate (hgh : g.SameEntries h) : (g.recalculate registry).SameEntries h :=
  hgh.recomputeAll

/-- The grids agree where they agree on the value. -/
theorem getElem?_eq (hgh : g.SameEntries h) (hvalue : g.value a = h.value a) : g[a]? = h[a]? := by
  have hcell := hgh a
  unfold value at hvalue
  cases hg : g[a]? with
  | none =>
    cases hh : h[a]? with
    | none => rfl
    | some d => simp [hg, hh] at hcell
  | some c =>
    cases hh : h[a]? with
    | none => simp [hg, hh] at hcell
    | some d =>
      simp only [hg, hh, Option.map_some, Option.some.injEq, Cell.uncomputed, Cell.compute,
        Cell.mk.injEq] at hcell
      simp only [hg, hh] at hvalue
      obtain ⟨hraw, hformula, -, hstyle⟩ := hcell
      rw [Option.some.injEq, Cell.mk.injEq]
      exact ⟨hraw, hformula, hvalue, hstyle⟩

end SameEntries

/-! ## Restoring a settled grid -/

/-- A formula comes to its settled value if all that it reads has its settled value. -/
theorem result_eq_of_isSettledAt (hf : g.formula? a = some f)
    (hreliable : Formula.IsReliable registry f) (hsettled : g.IsSettledAt registry a)
    (hreads : ¬g.graph.LeadsToCycle a → ∀ b, g.graph.Reads a b → h.value b = g.value b) :
    h.result registry g.graph a f = g.value a := by
  obtain ⟨hcircular, hproper⟩ := (isSettledAt_iff hf).1 hsettled
  by_cases hcycle : g.graph.LeadsToCycle a
  · rw [hcircular hcycle, result_of_leadsToCycle hf hreliable.1 hcycle]
  · have hcheck := mt (hasCycle_graph_iff hf).1 hcycle
    rw [hproper hcycle, result, hreliable.1, Bool.true_and, if_neg hcheck]
    exact hreliable.2 _ _ fun b hb => hreads hcycle b ((reads_graph_iff hf).2 hb)

/-- **Recomputing restores a settled grid** from a grid with the same entries that has lost no
values but those of the cells that are recomputed, as long as these come in order. -/
theorem recomputeAll_eq (hg : g.FormulasSatisfy (Formula.IsReliable registry))
    (hsettled : g.IsSettled registry) (hsame : h.SameEntries g)
    (hcells : ∀ a ∈ cells, a ∈ g.graph)
    (hordered : cells.Pairwise fun a b => g.graph.Reads a b → g.graph.LeadsToCycle a)
    (hrest : ∀ a, a ∉ cells → h[a]? = g[a]?) :
    h.recomputeAll registry g.graph cells = g := by
  induction cells generalizing h with
  | nil => exact Std.ExtTreeMap.ext_getElem? fun {a} => hrest a (by simp)
  | cons x cells ih =>
    obtain ⟨hfirst, hordered⟩ := List.pairwise_cons.1 hordered
    obtain ⟨hx, hcells⟩ := List.forall_mem_cons.1 hcells
    obtain ⟨f, hf⟩ := Option.isSome_iff_exists.1 (mem_graph_iff.1 hx)
    -- all that `x` reads has its settled value by now, unless `x` leads to a cycle
    have hresult : h.result registry g.graph x f = g.value x := by
      refine result_eq_of_isSettledAt hf (hg x f hf) (hsettled x) fun hcycle b hb => ?_
      have hbx : b ≠ x := fun h => hcycle (leadsToCycle_of_transGen (.single (h ▸ hb)))
      have hb' : b ∉ cells := fun h => hcycle (hfirst b h hb)
      exact value_congr (hrest b (by simp [hbx, hb']))
    have hvalue : (h.recompute registry g.graph x).value x = g.value x := by
      rw [value_recompute_self ((hsame.formula?_eq x).trans hf), hresult]
    rw [recomputeAll_cons]
    refine ih (hsame.recompute x) hcells hordered fun b hb => ?_
    by_cases hxb : x = b
    · subst hxb
      exact (hsame.recompute x).getElem?_eq hvalue
    · rw [getElem?_recompute_of_ne hxb]
      exact hrest b (by simp [Ne.symm hxb, hb])

/-- Propagation restores a settled grid if only dependents of the sources have lost their values. -/
theorem propagate_eq (hg : g.FormulasSatisfy (Formula.IsReliable registry))
    (hsettled : g.IsSettled registry) (hsame : h.SameEntries g)
    (hrest : ∀ a, a ∉ g.graph.dependents sources → h[a]? = g[a]?) :
    h.propagate registry sources = g := by
  rw [propagate, hsame.graph_eq]
  refine recomputeAll_eq hg hsettled hsame (fun a ha => (mem_order_within_iff.1 ha).1)
    (pairwise_order_within _ _) fun a ha => hrest a fun hmem => ha ?_
  exact mem_order_within_iff.2 ⟨mem_graph_of_dependents hmem, hmem⟩

/-- A full recalculation restores a settled grid if only formula cells have lost their values. -/
theorem recalculate_eq (hg : g.FormulasSatisfy (Formula.IsReliable registry))
    (hsettled : g.IsSettled registry) (hsame : h.SameEntries g)
    (hrest : ∀ a, g.formula? a = none → h[a]? = g[a]?) : h.recalculate registry = g := by
  rw [recalculate, hsame.graph_eq]
  refine recomputeAll_eq hg hsettled hsame (fun a ha => mem_order_iff.1 ha) (pairwise_order _)
    fun a ha => hrest a ?_
  rwa [mem_order_iff, mem_graph_iff, Option.not_isSome_iff_eq_none] at ha

/-- A settled grid stays as it is. -/
theorem recalculate_eq_self (hg : g.FormulasSatisfy (Formula.IsReliable registry))
    (hsettled : g.IsSettled registry) : g.recalculate registry = g :=
  recalculate_eq hg hsettled (.refl g) fun _ _ => rfl

/-- **Settled values are unique**: they are determined by the entries and by the values of the cells
without formulas. -/
theorem eq_of_isSettled (hg : g.FormulasSatisfy (Formula.IsReliable registry))
    (hsettled : g.IsSettled registry) (hsettled' : h.IsSettled registry)
    (hsame : h.SameEntries g) (hrest : ∀ a, g.formula? a = none → h[a]? = g[a]?) : h = g := by
  have hh : h.FormulasSatisfy (Formula.IsReliable registry) := fun a f hf =>
    hg a f ((hsame.formula?_eq a).symm.trans hf)
  rw [← recalculate_eq hg hsettled hsame hrest, recalculate_eq_self hh hsettled']

/-! ## Settled values alone -/

/-- The cells of a grid with the values of another. -/
def withValues (g h : Grid) : Grid :=
  g.map fun a c => c.compute (h.value a)

theorem getElem?_withValues (g h : Grid) (a : Address) :
    (g.withValues h)[a]? = g[a]?.map fun c => c.compute (h.value a) :=
  Std.ExtTreeMap.getElem?_map

theorem sameEntries_withValues (g h : Grid) : (g.withValues h).SameEntries g := by
  intro a
  rw [getElem?_withValues]
  cases g[a]? <;> rfl

theorem value_withValues (ha : a ∉ g → h.value a = .null) :
    (g.withValues h).value a = h.value a := by
  rw [value, getElem?_withValues]
  cases hg : g[a]? with
  | none => exact (ha fun hmem => by simp [mem_iff_exists, hg] at hmem).symm
  | some c => rfl

/-- **Formulas and the values of the other cells determine all values** of a settled grid. What else
its cells hold makes no difference. -/
theorem value_eq_of_isSettled (hg : g.FormulasSatisfy (Formula.IsReliable registry))
    (hsettled : g.IsSettled registry) (hsettled' : h.IsSettled registry)
    (hformula : ∀ a, h.formula? a = g.formula? a)
    (hvalue : ∀ a, g.formula? a = none → h.value a = g.value a) (a : Address) :
    h.value a = g.value a := by
  have hsame := sameEntries_withValues g h
  have habsent (b : Address) (hb : b ∉ g) : h.value b = .null := by
    have hget : g[b]? = none := Std.ExtTreeMap.getElem?_eq_none hb
    rw [hvalue b (by simp [formula?, hget]), value, hget]
  have hvalues (b : Address) : (g.withValues h).value b = h.value b := value_withValues (habsent b)
  -- the cells of `g` with the values of `h` are settled as well, so they are those of `g`
  have hwith : (g.withValues h).IsSettled registry :=
    hsettled'.congr (fun b => (hsame.formula?_eq b).trans (hformula b).symm) hvalues
  have heq : g.withValues h = g := eq_of_isSettled hg hsettled hwith hsame fun b hb =>
    hsame.getElem?_eq ((hvalues b).trans (hvalue b hb))
  rw [← hvalues a, heq]

end Grid

end Spreadsheet
