import Spreadsheet.Proofs.Sheet.Change

/-!
# No cycle goes unmarked

After every history of edits, pasting and replacing included, each formula cell from which a
dependency cycle can be reached holds the circular error (`Sheet.value_run_of_leadsToCycle`). The
clipboard takes part in the invariant, since its formulas come back into the grid unread.
-/

namespace Spreadsheet

namespace Sheet

variable {registry : Registry} {s s' : Sheet} {g : Grid} {sources : List Address} {a b : Address}
  {text : String}

/-- What holds along a history: formulas are formulas, also on the clipboard, and the cells that
lead to a cycle are marked. -/
structure MarksCycles (s : Sheet) : Prop where
  formulas : s.grid.HoldsFormulas
  clipboard : ∀ c, s.clipboard = some c → c.cells.HoldsFormulas
  marked : s.grid.IsMarked

theorem marksCycles_of_new {config : Config} (h : Sheet.new config registry = .ok s) :
    s.MarksCycles := by
  obtain ⟨_, -, rfl⟩ := Except.map_eq_ok_iff.1 h
  refine ⟨Grid.formulasSatisfy_empty, by simp [blank], fun a ha => ?_⟩
  obtain ⟨f, hf⟩ := Grid.formula?_of_leadsToCycle ha
  simp [blank, Grid.formula?] at hf

namespace MarksCycles

/-- Changing some cells and recomputing their dependents, if all others are marked. -/
theorem settle_of_marked (h : s.MarksCycles) (hformulas : g.HoldsFormulas)
    (hrest : ∀ a, a ∉ g.graph.dependents sources → g.IsMarkedAt a) :
    (s.settle g sources).MarksCycles where
  formulas a f hf := hformulas a f (by simpa [Sheet.settle] using hf)
  clipboard := h.clipboard
  marked := Grid.isMarked_propagate hformulas hrest

/-- Changing some cells and recomputing their dependents, if the changed cells are marked. -/
theorem settle (h : s.MarksCycles) (hgrid : ∀ b, b ∉ sources → s.grid[b]? = g[b]?)
    (hformulas : g.HoldsFormulas) (hsources : ∀ a ∈ sources, g.IsMarkedAt a) :
    (s.settle g sources).MarksCycles := by
  refine h.settle_of_marked hformulas fun a ha => ?_
  by_cases hs : a ∈ sources
  · exact hsources a hs
  · exact (h.marked a).of_change hgrid hs ha

/-- Taking some cells away and recomputing their dependents. -/
theorem settle_of_removes (h : s.MarksCycles) (hg : s.grid.Removes g sources) :
    (s.settle g sources).MarksCycles := by
  refine h.settle hg.agree (h.formulas.removes hg) fun a ha hcycle => ?_
  obtain ⟨f, hf⟩ := Grid.formula?_of_leadsToCycle hcycle
  simp [hg.formula?_eq_none ha] at hf

/-- Recomputing all cells. -/
theorem recalculate (hformulas : s.grid.HoldsFormulas)
    (hclipboard : ∀ c, s.clipboard = some c → c.cells.HoldsFormulas) :
    s.recalculate.MarksCycles where
  formulas a f hf := hformulas a f (by simpa [Sheet.recalculate] using hf)
  clipboard := hclipboard
  marked := Grid.isMarked_recalculate hformulas

/-! ## The edits one by one -/

theorem enter (h : s.MarksCycles) : (s.enter a text).MarksCycles := by
  have hsettle : s.enter a text = s.settle (s.grid.enterText s.registry a text) [a] := rfl
  rw [hsettle]
  refine h.settle (fun b hb => ?_) (h.formulas.enterText id) fun b hb hcycle => ?_
  · exact (Grid.getElem?_enterText_of_ne (Ne.symm (List.ne_of_not_mem_cons hb))).symm
  · obtain rfl := List.mem_singleton.1 hb
    obtain ⟨f, hf⟩ := Grid.formula?_of_leadsToCycle hcycle
    obtain ⟨rfl, hformula⟩ := Grid.eq_of_formula?_enterText hf
    obtain ⟨entered, -, hvalue⟩ := Grid.value_enterText_self s.registry s.grid b f
    rw [hvalue]
    exact Grid.result_of_leadsToCycle hf hformula hcycle

theorem restyle (h : s.MarksCycles) (patch : StylePatch) : (s.restyle a patch).MarksCycles where
  formulas b f hf := h.formulas b f ((Grid.formula?_restyle patch).symm.trans hf)
  clipboard := h.clipboard
  marked b hb := by
    have hgraph : (s.grid.restyle a patch).graph = s.grid.graph :=
      Grid.graph_congr fun _ => Grid.formula?_restyle patch
    exact (Grid.value_restyle patch).trans (h.marked b (hgraph ▸ hb))

theorem erase (h : s.MarksCycles) : (s.erase a).MarksCycles := by
  rw [Sheet.erase]
  split
  · exact h.settle_of_removes Grid.removes_erase
  · exact h

/-- The cells that go to the clipboard hold formulas as the grid does. -/
theorem copy (h : s.MarksCycles) :
    MarksCycles { s with clipboard := some (.snapshot s.grid a b) } where
  formulas := h.formulas
  clipboard c hc := by
    cases hc
    exact h.formulas.restrict
  marked := h.marked

theorem take (h : s.MarksCycles) : (s.take a b).MarksCycles :=
  h.copy.settle_of_removes Grid.removes_restrict

theorem eraseRepeated (h : s.MarksCycles) (r : Range) : (s.eraseRepeated r).MarksCycles :=
  h.settle_of_removes Grid.removes_restrict

/-- The cells that are pasted carry their values along; those that lead to a cycle at their new
places are marked there. -/
theorem place (h : s.MarksCycles) {cells : List (Address × Cell)}
    (hcells : ∀ a d, (a, d) ∈ cells → ∀ f, d.formula = some f → Formula.isFormula f = true) :
    (s.place cells).MarksCycles := by
  rw [Sheet.place_eq_settle]
  refine h.settle (fun b hb => ?_) (fun b f hf => ?_) fun b hb => ?_
  · exact (Grid.getElem?_withBlock_of_notMem hb).symm
  · exact h.formulas.overwrite hcells b f (by rwa [Grid.formula?_withBlock] at hf)
  · exact Grid.isMarkedAt_withBlock hb

theorem paste (h : s.MarksCycles) {c : Clipboard} (hc : s.clipboard = some c) (target : Address) :
    (s.place (c.placed target)).MarksCycles := by
  refine h.place fun a d hd f hf => ?_
  obtain ⟨b, -, hb⟩ := Clipboard.mem_placed_iff.1 hd
  exact h.clipboard c hc b f (by rw [Grid.formula?_of_getElem? hb, hf])

theorem withSizes (h : s.MarksCycles) (axis : Axis) (sizes : Sizes) :
    (s.withSizes axis sizes).MarksCycles := by
  cases axis <;> exact ⟨h.formulas, h.clipboard, h.marked⟩

theorem insertLine (h : s.MarksCycles) (axis : Axis) (i : Coord) :
    (s.insertLine axis i).MarksCycles := by
  have hmoved := h.formulas.relocate (@Axis.makeRoom_injective axis i)
  cases axis <;> exact recalculate hmoved h.clipboard

theorem deleteLine (h : s.MarksCycles) (axis : Axis) (i : Coord) :
    (s.deleteLine axis i).MarksCycles := by
  have hmoved := h.formulas.relocate (@Axis.closeUp_injective axis i)
  cases axis <;> exact recalculate hmoved h.clipboard

/-- A replacement leaves formulas alone, and errors among the values. -/
theorem replaceWithin (h : s.MarksCycles) (r : Range) (find new : String) :
    (s.replaceWithin r find new).MarksCycles := by
  let change (a : Address) (c : Cell) : Cell :=
    if isAffected r find a c then replaceCell find new c else c
  have hchange (a : Address) : (s.grid.map change)[a]? = s.grid[a]?.map (change a) :=
    Std.ExtTreeMap.getElem?_map
  have hformula (a : Address) : Grid.formula? (s.grid.map change) a = s.grid.formula? a := by
    rw [Grid.formula?, Grid.formula?, hchange]
    cases s.grid[a]? with
    | none => rfl
    | some c =>
      simp only [Option.map_some, Option.bind_some, change]
      split <;> rfl
  have hgraph : Grid.graph (s.grid.map change) = s.grid.graph := Grid.graph_congr hformula
  refine h.settle_of_marked (fun a f hf => h.formulas a f ((hformula a).symm.trans hf))
    fun a _ hcycle => ?_
  have hvalue := h.marked a (hgraph ▸ hcycle)
  obtain ⟨f, hf⟩ := Grid.formula?_of_leadsToCycle hcycle
  obtain ⟨c, hc, -⟩ := Grid.exists_of_formula? ((hformula a).symm.trans hf)
  simp only [Grid.value, hc] at hvalue
  simp only [Grid.value, hchange, hc, Option.map_some, change]
  split
  · simp [replaceCell, hvalue, replaceValue]
  · exact hvalue

/-- Every edit keeps the cycles marked. -/
theorem effect {e : Edit} (h : s.MarksCycles) (heffect : e.Effect s s') : s'.MarksCycles := by
  cases heffect with
  | setText => exact h.enter
  | setStyle => exact h.restyle _
  | clear => exact h.erase
  | insert => exact h.insertLine _ _
  | delete => exact h.deleteLine _ _
  | copy => exact h.copy
  | cut => exact h.take
  | paste _ hc => exact h.paste hc _
  | removeDuplicates => exact h.eraseRepeated _
  | replaceNothing => exact h
  | replace => exact h.replaceWithin _ _ _
  | setSize => exact h.withSizes _ _
  | register => exact ⟨h.formulas, h.clipboard, h.marked⟩
  | recalculate => exact recalculate h.formulas h.clipboard

end MarksCycles

/-- **No cycle goes unmarked**: after every history of edits, a cell that leads to a cycle holds the
circular error. -/
theorem value_run_of_leadsToCycle {config : Config} {history : List Edit}
    (hs : Sheet.new config registry = .ok s) (ha : (s.run history).grid.graph.LeadsToCycle a) :
    (s.run history).grid.value a = .error .circular := by
  have hmarks : (s.run history).MarksCycles :=
    run_induction (marksCycles_of_new hs) fun s h e _ s' heffect => h.effect heffect
  exact hmarks.marked a ha

/-- Half of a cycle is copied and pasted over the cell that had broken it. -/
theorem value_run_pasted_cycle :
    let s := (Sheet.blank {} .builtin).run
      [.setText "A1" "=B1", .setText "B1" "=A1", .copy "B1" "B1", .clear "B1", .paste "B1"]
    s.grid.graph.LeadsToCycle ⟨0, 0⟩ ∧ s.grid.value ⟨0, 0⟩ = .error .circular := by
  intro s
  have hf : s.grid.formula? ⟨0, 0⟩ = some "=B1" := by decide +kernel
  have hcycle := (Grid.hasCycle_graph_iff hf).1 (by decide +kernel)
  have hnew : Sheet.new {} .builtin = .ok (Sheet.blank {} .builtin) := rfl
  exact ⟨hcycle, value_run_of_leadsToCycle hnew hcycle⟩

end Sheet

end Spreadsheet
