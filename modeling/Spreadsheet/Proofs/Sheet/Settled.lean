import Spreadsheet.Proofs.Recalculation.Restoration
import Spreadsheet.Proofs.Sheet.Change

/-!
# Sheets stay settled

Starting from a new sheet, every formula cell holds the value that its formula has over the grid
after every history of edits (`Sheet.isSettled_run`), as long as the formulas that are entered are
covered. Pasting and replacing are left out, since they carry values along without evaluating them,
and so is registering functions, which leaves the values that are there.
-/

namespace Spreadsheet

open Relation

/-- Edits that evaluate all that they change, entering covered formulas only. -/
def Edit.KeepsSettled (registry : Registry) : Edit → Prop
  | .setText label text => ∀ a, Address.ofText label = .ok a → Formula.isFormula text = true →
    Formula.IsCovered registry text
  | .paste _ | .replace .. | .register .. => False
  | .setStyle .. | .clear _ | .insert .. | .delete .. | .copy .. | .cut .. | .removeDuplicates .. |
    .setSize .. | .recalculate => True

namespace Sheet

variable {registry : Registry} {s s' : Sheet} {g : Grid} {sources : List Address} {a b : Address}
  {text : String}

/-- What holds along a history: all formulas are reliable, and all formula cells are settled. -/
structure IsStable (registry : Registry) (s : Sheet) : Prop where
  registry_eq : s.registry = registry
  formulas : s.grid.FormulasSatisfy (Formula.IsReliable registry)
  settled : s.grid.IsSettled registry

theorem isStable_of_new {config : Config} (h : Sheet.new config registry = .ok s) :
    s.IsStable registry := by
  obtain ⟨_, -, rfl⟩ := Except.map_eq_ok_iff.1 h
  refine ⟨rfl, Grid.formulasSatisfy_empty, fun a => ?_⟩
  exact Grid.isSettledAt_of_formula?_eq_none (by simp [blank, Grid.formula?])

namespace IsStable

/-- Changing some cells and recomputing their dependents, if the changed cells are settled. -/
theorem settle (h : s.IsStable registry) (hgrid : ∀ b, b ∉ sources → s.grid[b]? = g[b]?)
    (hformulas : g.FormulasSatisfy (Formula.IsReliable registry))
    (hsettled : ∀ a ∈ sources, g.IsSettledAt registry a)
    (hsources : ∀ a ∈ sources, ∀ b ∈ g.graph.dependents sources, g.graph.Reads a b →
      g.graph.LeadsToCycle a) : (s.settle g sources).IsStable registry where
  registry_eq := h.registry_eq
  formulas a f hf := hformulas a f (by simpa [Sheet.settle] using hf)
  settled := by
    rw [Sheet.settle, h.registry_eq]
    refine Grid.isSettled_propagate hformulas (fun a ha => ?_) hsources
    by_cases hs : a ∈ sources
    · exact hsettled a hs
    · exact (h.settled a).of_change hgrid hs ha (hformulas a)

/-- Taking some cells away and recomputing their dependents. -/
theorem settle_of_removes (h : s.IsStable registry) (hg : s.grid.Removes g sources) :
    (s.settle g sources).IsStable registry := by
  refine h.settle hg.agree (h.formulas.removes hg)
    (fun a ha => Grid.isSettledAt_of_formula?_eq_none (hg.formula?_eq_none ha))
    fun a ha b _ hab => ?_
  have := Grid.mem_graph_iff.1 hab.mem
  simp [hg.formula?_eq_none ha] at this

/-- Recomputing all cells of a grid with reliable formulas. -/
theorem recalculate (hregistry : s.registry = registry)
    (hformulas : s.grid.FormulasSatisfy (Formula.IsReliable registry)) :
    s.recalculate.IsStable registry where
  registry_eq := hregistry
  formulas a f hf := hformulas a f (by simpa [Sheet.recalculate] using hf)
  settled := by
    rw [Sheet.recalculate, hregistry]
    exact Grid.isSettled_recalculate hformulas

/-- Nothing is left to recalculate in a stable sheet. -/
theorem recalculate_eq_self (h : s.IsStable registry) : s.recalculate = s := by
  obtain rfl := h.registry_eq
  rw [Sheet.recalculate, Grid.recalculate_eq_self h.formulas h.settled]

/-- Changing nothing that evaluation looks at. -/
theorem congr (h : s.IsStable registry) (hregistry : s'.registry = s.registry)
    (hformula : ∀ a, s'.grid.formula? a = s.grid.formula? a)
    (hvalue : ∀ a, s'.grid.value a = s.grid.value a) : s'.IsStable registry where
  registry_eq := hregistry.trans h.registry_eq
  formulas a f hf := h.formulas a f (hformula a ▸ hf)
  settled := h.settled.congr hformula hvalue

/-! ## The edits one by one -/

theorem enter (h : s.IsStable registry)
    (htext : Formula.isFormula text = true → Formula.IsCovered registry text) :
    (s.enter a text).IsStable registry := by
  have hreliable (hf : Formula.isFormula text = true) : Formula.IsReliable registry text :=
    ⟨hf, htext hf⟩
  have hsettle : s.enter a text = s.settle (s.grid.enterText registry a text) [a] := by
    rw [← h.registry_eq]
    rfl
  rw [hsettle]
  refine h.settle (fun b hb => ?_) (h.formulas.enterText hreliable) (fun b hb => ?_)
    fun b hb c hc hbc => ?_
  · exact (Grid.getElem?_enterText_of_ne (Ne.symm (List.ne_of_not_mem_cons hb))).symm
  · obtain rfl := List.mem_singleton.1 hb
    cases hformula : Formula.isFormula text with
    | false =>
      refine Grid.isSettledAt_of_formula?_eq_none ?_
      simp [Grid.formula?_enterText_self, hformula]
    | true =>
      have hf : (s.grid.enterText registry b text).formula? b = some text := by
        rw [Grid.formula?_enterText_self, if_pos hformula]
      obtain ⟨entered, hne, hvalue⟩ := Grid.value_enterText_self registry s.grid b text
      refine Grid.isSettledAt_of_result hf (hreliable hformula) hvalue fun hcycle c hc => ?_
      -- a formula that reads its own cell leads to a cycle
      have hcb : c ≠ b := fun h => hcycle (Graph.leadsToCycle_of_transGen (.single (h ▸ hc)))
      exact (Grid.value_congr (hne c hcb)).symm
  · obtain rfl := List.mem_singleton.1 hb
    obtain ⟨-, s, hs, hcs⟩ := Graph.mem_dependents_iff.1 hc
    obtain rfl := List.mem_singleton.1 hs
    exact .of_return hbc hcs

theorem restyle (h : s.IsStable registry) (patch : StylePatch) :
    (s.restyle a patch).IsStable registry :=
  h.congr rfl (fun _ => Grid.formula?_restyle patch) fun _ => Grid.value_restyle patch

theorem erase (h : s.IsStable registry) : (s.erase a).IsStable registry := by
  rw [Sheet.erase]
  split
  · exact h.settle_of_removes Grid.removes_erase
  · exact h

theorem withClipboard (h : s.IsStable registry) (c : Option Clipboard) :
    IsStable registry { s with clipboard := c } :=
  ⟨h.registry_eq, h.formulas, h.settled⟩

theorem take (h : s.IsStable registry) : (s.take a b).IsStable registry :=
  (h.withClipboard _).settle_of_removes Grid.removes_restrict

theorem eraseRepeated (h : s.IsStable registry) (r : Range) :
    (s.eraseRepeated r).IsStable registry :=
  h.settle_of_removes Grid.removes_restrict

theorem withSizes (h : s.IsStable registry) (axis : Axis) (sizes : Sizes) :
    (s.withSizes axis sizes).IsStable registry := by
  cases axis <;> exact ⟨h.registry_eq, h.formulas, h.settled⟩

theorem insertLine (h : s.IsStable registry) (axis : Axis) (i : Coord) :
    (s.insertLine axis i).IsStable registry := by
  have hmoved := h.formulas.relocate (@Axis.makeRoom_injective axis i)
  cases axis <;> exact recalculate h.registry_eq hmoved

theorem deleteLine (h : s.IsStable registry) (axis : Axis) (i : Coord) :
    (s.deleteLine axis i).IsStable registry := by
  have hmoved := h.formulas.relocate (@Axis.closeUp_injective axis i)
  cases axis <;> exact recalculate h.registry_eq hmoved

/-- An edit that evaluates all that it changes keeps a sheet stable. -/
theorem effect {e : Edit} (h : s.IsStable registry) (he : e.KeepsSettled registry)
    (heffect : e.Effect s s') : s'.IsStable registry := by
  cases heffect with
  | setText ha => exact h.enter (he _ ha)
  | setStyle => exact h.restyle _
  | clear => exact h.erase
  | insert => exact h.insertLine _ _
  | delete => exact h.deleteLine _ _
  | copy => exact h.withClipboard _
  | cut => exact h.take
  | removeDuplicates => exact h.eraseRepeated _
  | setSize => exact h.withSizes _ _
  | recalculate => exact recalculate h.registry_eq h.formulas
  | paste | replaceNothing | replace | register => exact he.elim

theorem run {history : List Edit} (h : s.IsStable registry)
    (hhistory : ∀ e ∈ history, e.KeepsSettled registry) : (s.run history).IsStable registry :=
  run_induction h fun _ h e he _ heffect => h.effect (hhistory e he) heffect

end IsStable

/-- **Sheets stay settled**: along every history of edits that evaluate all that they change. -/
theorem isSettled_run {config : Config} {history : List Edit}
    (hs : Sheet.new config registry = .ok s) (hhistory : ∀ e ∈ history, e.KeepsSettled registry) :
    (s.run history).grid.IsSettled registry := by
  have hstable : (s.run history).IsStable registry :=
    run_induction (isStable_of_new hs) fun s h e he s' heffect => h.effect (hhistory e he) heffect
  exact hstable.settled

/-- Two formulas form a cycle, which is broken before a row is inserted and a cell is cut out. -/
theorem isSettled_broken_cycle :
    let s := (Sheet.blank {} .builtin).run
      [.setText "A1" "=B1", .setText "B1" "=A1", .setText "B1" "7", .insert .row 0, .clear "A0",
        .cut "B2" "B2"]
    s.grid.formula? ⟨1, 0⟩ = some "=B1" ∧ s.grid.IsSettled .builtin := by
  intro s
  have hfirst : Formula.IsCovered .builtin "=B1" :=
    Formula.isCovered_of_reference (a := ⟨0, 1⟩) (by decide +kernel)
  have hsecond : Formula.IsCovered .builtin "=A1" :=
    Formula.isCovered_of_reference (a := ⟨0, 0⟩) (by decide +kernel)
  have hliteral : Formula.isFormula "7" = false := by decide
  have hnew : Sheet.new {} .builtin = .ok (Sheet.blank {} .builtin) := rfl
  refine ⟨by decide +kernel, isSettled_run hnew ?_⟩
  simp [Edit.KeepsSettled, hfirst, hsecond, hliteral]

end Sheet

end Spreadsheet
