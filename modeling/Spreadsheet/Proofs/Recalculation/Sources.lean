import Spreadsheet.Proofs.Dependency.Part
import Spreadsheet.Proofs.Recalculation.Restoration

/-!
# Which sources matter

Propagation recomputes what depends on its sources. Further sources without formulas make no
difference if the cells that depend on them were settled before the change
(`Grid.propagate_eq_of_change`). Of these cells, those that depend on the other sources too are
recomputed anyway, in the same order, and the rest come out as they were.
-/

namespace Spreadsheet.Grid

open Relation Spreadsheet.Graph

variable {registry : Registry} {graph : Graph} {g h : Grid} {a b : Address}
  {cells sources further : List Address}

/-! ## The same sources -/

/-- Only the set of the sources matters. -/
theorem propagate_congr (h : ∀ a, a ∈ further ↔ a ∈ sources) :
    g.propagate registry further = g.propagate registry sources := by
  have hmem (a : Address) :
      a ∈ g.graph.dependents further ↔ a ∈ g.graph.dependents sources := by
    simp only [mem_dependents_iff, h]
  have hwithin : g.graph.within (g.graph.dependents further) =
      g.graph.within (g.graph.dependents sources) :=
    Std.ExtTreeMap.ext_getElem? fun {a} => by simp only [getElem?_within, hmem]
  rw [propagate, propagate, hwithin]

/-- Nothing is recomputed if nothing has changed. -/
theorem propagate_nil (g : Grid) : g.propagate registry [] = g :=
  Std.ExtTreeMap.ext_getElem? fun {a} => getElem?_propagate (by simp [mem_dependents_iff])

/-! ## Cells that come out as they were -/

/-- The cell at an address is settled, and its formula is reliable. -/
structure IsReliableAt (registry : Registry) (g : Grid) (a : Address) : Prop where
  formula : ∀ f, g.formula? a = some f → Formula.IsReliable registry f
  settled : g.IsSettledAt registry a

theorem recompute_eq_self
    (h : ∀ f, g.formula? a = some f → g.result registry graph a f = g.value a) :
    g.recompute registry graph a = g := by
  unfold recompute
  split
  · rename_i f hf
    rw [h f hf, setValue_value_self]
  · rfl

/-- Recomputing cells that were settled changes nothing, as long as all that they read is as it
was. Only the cells that satisfy `p` are not. -/
theorem recomputeAll_filter {p : Address → Bool} (hsame : h.SameEntries g)
    (hagree : ∀ a, p a = false → h[a]? = g[a]?)
    (hcells : ∀ a ∈ cells, p a = false → g.IsReliableAt registry a ∧
      ∀ b, g.graph.Reads a b → p b = false) :
    h.recomputeAll registry g.graph cells = h.recomputeAll registry g.graph (cells.filter p) := by
  induction cells generalizing h with
  | nil => rfl
  | cons x cells ih =>
    obtain ⟨hx, hcells⟩ := List.forall_mem_cons.1 hcells
    rw [recomputeAll_cons]
    cases hp : p x with
    | true =>
      rw [List.filter_cons_of_pos hp, recomputeAll_cons]
      refine ih (hsame.recompute x) (fun a ha => ?_) hcells
      have hxa : x ≠ a := fun h => by simp [← h, hp] at ha
      rw [getElem?_recompute_of_ne hxa, hagree a ha]
    | false =>
      obtain ⟨hreliable, hreads⟩ := hx hp
      have hself : h.recompute registry g.graph x = h := by
        refine recompute_eq_self fun f hf => ?_
        have hf' : g.formula? x = some f := (hsame.formula?_eq x).symm.trans hf
        rw [result_eq_of_isSettledAt hf' (hreliable.formula f hf') hreliable.settled
          fun _ b hb => value_congr (hagree b (hreads b hb)), value_congr (hagree x hp)]
      rw [List.filter_cons_of_neg (by simp [hp]), hself]
      exact ih hsame hagree hcells

/-! ## Further sources -/

/-- A cell that reads a dependent is a dependent itself or a source. -/
theorem mem_dependents_of_reads (hs : a ∉ sources) (hb : b ∈ g.graph.dependents sources)
    (hab : g.graph.Reads a b) : a ∈ g.graph.dependents sources := by
  obtain ⟨-, s, hs', hbs⟩ := mem_dependents_iff.1 hb
  exact mem_dependents_iff.2 ⟨hs, s, hs', .head hab hbs⟩

/-- Further sources make no difference if all cells that are recomputed on their account only are
settled. -/
theorem propagate_eq_of_isReliableAt
    (hsub : ∀ a ∈ g.graph.dependents sources, a ∈ g.graph.dependents further)
    (hrest : ∀ a ∈ g.graph.dependents further, a ∉ g.graph.dependents sources →
      a ∉ sources ∧ g.IsReliableAt registry a) :
    g.propagate registry further = g.propagate registry sources := by
  have hreads : ∀ a ∈ g.graph.dependents further, a ∉ g.graph.dependents sources →
      ∀ b ∈ g.graph.dependents sources, ¬g.graph.Reads a b := fun a ha hnot b hb hab =>
    hnot (mem_dependents_of_reads (hrest a ha hnot).1 hb hab)
  rw [propagate, propagate, order_within hsub hreads]
  refine recomputeAll_filter (.refl g) (fun _ _ => rfl) fun a ha hp => ?_
  have hfurther := (mem_order_within_iff.1 ha).2
  rw [List.contains_eq_mem, decide_eq_false_iff_not] at hp
  refine ⟨(hrest a hfurther hp).2, fun b hab => ?_⟩
  rw [List.contains_eq_mem, decide_eq_false_iff_not]
  exact fun hb => hreads a hfurther hp b hb hab

/-- A path from a cell that is neither changed nor a dependent was there before the change. -/
theorem transGen_of_change (hgh : ∀ b, b ∉ sources → g[b]? = h[b]?) (hs : a ∉ sources)
    (ha : a ∉ h.graph.dependents sources) (hab : TransGen h.graph.Reads a b) :
    TransGen g.graph.Reads a b := by
  have hagree {x : Address} (hax : ReflTransGen h.graph.Reads a x) :
      h.graph[x]? = g.graph[x]? := by
    rw [getElem?_graph, getElem?_graph, formula?_congr (hgh x (notMem_of_reads hs ha hax))]
  induction hab with
  | single hab => exact .single (hab.of_getElem?_eq (hagree .refl))
  | tail hax hxb ih => exact ih.tail (hxb.of_getElem?_eq (hagree hax.to_reflTransGen))

/-- **Further sources without formulas** make no difference to a change if all that depends on them
was settled before. -/
theorem propagate_eq_of_change (hgh : ∀ b, b ∉ sources → g[b]? = h[b]?)
    (hsub : ∀ b ∈ sources, b ∈ further)
    (hnone : ∀ k ∈ further, k ∉ sources → g.formula? k = none)
    (hfurther : ∀ k ∈ further, k ∉ sources → ∀ a ∈ g.graph.dependents [k],
      g.IsReliableAt registry a) :
    h.propagate registry further = h.propagate registry sources := by
  refine propagate_eq_of_isReliableAt (fun a ha => ?_) fun a ha hnot => ?_
  · obtain ⟨hs, b, hb, hab⟩ := mem_dependents_iff.1 ha
    refine mem_dependents_iff.2 ⟨fun hmem => ?_, b, hsub b hb, hab⟩
    have hformula := mem_graph_iff.1 (mem_graph_of_dependents ha)
    simp [← formula?_congr (hgh a hs), hnone a hmem hs] at hformula
  · obtain ⟨hmem, k, hk, hak⟩ := mem_dependents_iff.1 ha
    have hs : a ∉ sources := mt (hsub a) hmem
    have hks : k ∉ sources := fun hks => hnot (mem_dependents_iff.2 ⟨hs, k, hks, hak⟩)
    have hne : a ∉ [k] := fun h => hmem (List.mem_singleton.1 h ▸ hk)
    have hold : g.IsReliableAt registry a := hfurther k hk hks a
      (mem_dependents_iff.2 ⟨hne, k, by simp, transGen_of_change hgh hs hnot hak⟩)
    have hformula (f : String) (hf : h.formula? a = some f) : Formula.IsReliable registry f :=
      hold.formula f ((formula?_congr (hgh a hs)).trans hf)
    exact ⟨hs, hformula, hold.settled.of_change hgh hs hnot hformula⟩

end Spreadsheet.Grid
