import Spreadsheet.Proofs.Recalculation.Restoration
import Spreadsheet.Proofs.Sheet.Settled

/-!
# What is entered determines the sheet

A sheet into which texts are only entered and cleared forgets its history: the texts that it stores
in the end determine every cell, computed values included (`Sheet.grid_run_eq`). Which values were
shown in between, and which cycles were formed and broken, leaves no trace.

* `Cell.IsEntered` says that a cell is what entering its text into an empty cell makes of it, the
  value of a formula apart.
* `Grid.texts` are the texts that a grid stores.
-/

namespace Spreadsheet

variable {registry : Registry}

/-! ## Entered cells -/

/-- The cell is what entering its text into an empty cell makes of it. What its value is, is said
only if the text is no formula. -/
structure Cell.IsEntered (c : Cell) : Prop where
  formula_eq : c.formula = if Formula.isFormula c.raw then some c.raw else none
  style_eq : c.style = {}
  computed_eq : Formula.isFormula c.raw = false → c.computed = .ofLiteral c.raw

/-- Entered cells with the same text differ in their values only. -/
theorem Cell.IsEntered.uncomputed_eq {c d : Cell} (hc : c.IsEntered) (hd : d.IsEntered)
    (hraw : c.raw = d.raw) : c.uncomputed = d.uncomputed := by
  simp [uncomputed, compute, hc.formula_eq, hd.formula_eq, hc.style_eq, hd.style_eq, hraw]

/-- Entered cells with the same text are equal if the text is no formula. -/
theorem Cell.IsEntered.eq {c d : Cell} (hc : c.IsEntered) (hd : d.IsEntered) (hraw : c.raw = d.raw)
    (hformula : c.formula = none) : c = d := by
  have hliteral : Formula.isFormula c.raw = false := by
    rw [hc.formula_eq] at hformula
    simpa using hformula
  obtain ⟨raw, formula, computed, style⟩ := c
  obtain ⟨raw', formula', computed', style'⟩ := d
  obtain rfl : raw = raw' := hraw
  rw [Cell.mk.injEq]
  refine ⟨rfl, hc.formula_eq.trans hd.formula_eq.symm, ?_, hc.style_eq.trans hd.style_eq.symm⟩
  exact (hc.computed_eq hliteral).trans (hd.computed_eq hliteral).symm

namespace Grid

variable {graph : Graph} {g h : Grid} {a b : Address} {text : String} {P Q : Cell → Prop}
  {cells sources : List Address}

/-- Every stored cell of a grid satisfies `P`. -/
def CellsSatisfy (P : Cell → Prop) (g : Grid) : Prop :=
  ∀ (a : Address) (c : Cell), g[a]? = some c → P c

/-- A property of cells that does not look at the values of formulas. -/
def IsValueFree (P : Cell → Prop) : Prop :=
  ∀ c v, c.formula.isSome → P c → P (c.compute v)

theorem isValueFree_isEntered : IsValueFree Cell.IsEntered := by
  intro c v hformula hc
  refine ⟨hc.formula_eq, hc.style_eq, fun hliteral => ?_⟩
  have hnone : c.formula = none := by
    rw [hc.formula_eq]
    exact if_neg (by simpa [Cell.compute] using hliteral)
  simp [hnone] at hformula

namespace CellsSatisfy

/-- Computing a value in a cell that holds a formula. -/
theorem setValue (hP : IsValueFree P) (hg : g.CellsSatisfy P) (ha : (g.formula? a).isSome)
    {v : Value} : (g.setValue a v).CellsSatisfy P := by
  intro b c hc
  rw [getElem?_setValue] at hc
  split at hc
  · rename_i hab
    obtain ⟨d, hd, rfl⟩ := Option.map_eq_some_iff.1 hc
    exact hP d v (formula?_of_getElem? (hab ▸ hd) ▸ ha) (hg b d hd)
  · exact hg b c hc

theorem recompute (hP : IsValueFree P) (hg : g.CellsSatisfy P) (a : Address) :
    (g.recompute registry graph a).CellsSatisfy P := by
  unfold Grid.recompute
  split
  · rename_i f hf
    exact hg.setValue hP (by rw [hf]; rfl)
  · exact hg

theorem recomputeAll (hP : IsValueFree P) (hg : g.CellsSatisfy P) :
    (g.recomputeAll registry graph cells).CellsSatisfy P := by
  induction cells generalizing g with
  | nil => exact hg
  | cons a cells ih => exact ih (hg.recompute hP a)

theorem propagate (hP : IsValueFree P) (hg : g.CellsSatisfy P) :
    (g.propagate registry sources).CellsSatisfy P :=
  hg.recomputeAll hP

theorem mono (hg : g.CellsSatisfy P) (hPQ : ∀ c, P c → Q c) : g.CellsSatisfy Q :=
  fun a c hc => hPQ c (hg a c hc)

/-- The cell at an address, an empty one if none is stored there. -/
theorem getD (hg : g.CellsSatisfy P) (hblank : P {}) (a : Address) : P (g.getD a {}) := by
  rw [Std.ExtTreeMap.getD_eq_getD_getElem?]
  cases hc : g[a]? with
  | none => exact hblank
  | some c => exact hg a c hc

theorem erase (hg : g.CellsSatisfy P) (a : Address) : CellsSatisfy P (g.erase a) := by
  intro b c hc
  rw [Std.ExtTreeMap.getElem?_erase] at hc
  split at hc
  · cases hc
  · exact hg b c hc

end CellsSatisfy

/-- What an entry comes to that is no formula. -/
theorem result_of_not_isFormula (htext : Formula.isFormula text = false) :
    g.result registry graph a text = .ofLiteral text := by
  have hform : Formula.Entry.ofText text = .literal text := by
    rcases Formula.Entry.ofText_cases text with hliteral | ⟨body, hbody, -⟩
    · exact hliteral
    · simp [Formula.isFormula, hbody] at htext
  simp [result, htext, Formula.evaluate, hform, Formula.Entry.value]

/-- Entering a text, if the property holds of the cell that is entered. -/
theorem CellsSatisfy.enterText (hg : g.CellsSatisfy P)
    (hentered : ∀ v, (Formula.isFormula text = false → v = .ofLiteral text) →
      P (((g.getD a {}).enter text).compute v)) :
    (g.enterText registry a text).CellsSatisfy P := by
  intro b c hc
  by_cases hab : a = b
  · subst hab
    rw [Grid.enterText, getElem?_setValue, if_pos rfl, Std.ExtTreeMap.getElem?_insert_self,
      Option.map_some, Option.some.injEq] at hc
    subst hc
    exact hentered _ fun htext => result_of_not_isFormula htext
  · exact hg b c (by rwa [getElem?_enterText_of_ne hab] at hc)

/-- Entering a text leaves entered cells. -/
theorem CellsSatisfy.isEntered_enterText (hg : g.CellsSatisfy Cell.IsEntered) (a : Address)
    (text : String) : (g.enterText registry a text).CellsSatisfy Cell.IsEntered := by
  refine hg.enterText fun v hv => ⟨rfl, ?_, hv⟩
  exact (hg.mono fun _ hc => hc.style_eq).getD rfl a

/-! ## The texts of a grid -/

/-- The texts that a grid stores, by their addresses. -/
def texts (g : Grid) : Std.ExtTreeMap Address String :=
  g.map fun _ c => c.raw

theorem getElem?_texts (g : Grid) (a : Address) : g.texts[a]? = g[a]?.map Cell.raw :=
  Std.ExtTreeMap.getElem?_map

/-- Cells at one address of two grids with the same texts. -/
theorem map_eq_of_texts_eq {α : Type} {f : Cell → α} (htexts : g.texts = h.texts)
    (hf : ∀ c d, g[a]? = some c → h[a]? = some d → c.raw = d.raw → f c = f d) :
    g[a]?.map f = h[a]?.map f := by
  have hraw : g[a]?.map Cell.raw = h[a]?.map Cell.raw := by
    rw [← getElem?_texts, htexts, getElem?_texts]
  cases hg : g[a]? <;> cases hh : h[a]? <;> simp_all

/-- **Settled grids with the same texts are equal** if all their cells were entered. -/
theorem eq_of_texts_eq (hg : g.FormulasSatisfy (Formula.IsReliable registry))
    (hsettled : g.IsSettled registry) (hsettled' : h.IsSettled registry)
    (hentered : g.CellsSatisfy Cell.IsEntered) (hentered' : h.CellsSatisfy Cell.IsEntered)
    (htexts : h.texts = g.texts) : h = g := by
  refine eq_of_isSettled hg hsettled hsettled' (fun a => ?_) fun a hf => ?_
  · exact map_eq_of_texts_eq htexts fun c d hc hd hraw =>
      (hentered' a c hc).uncomputed_eq (hentered a d hd) hraw
  · have heq : h[a]?.map id = g[a]?.map id := map_eq_of_texts_eq htexts fun c d hc hd hraw => by
      rw [formula?_of_getElem? hd] at hf
      exact ((hentered a d hd).eq (hentered' a c hc) hraw.symm hf).symm
    simpa using heq

end Grid

/-! ## Histories of entries -/

/-- Edits that enter covered texts or clear cells. -/
def Edit.EntersOrClears (registry : Registry) : Edit → Prop
  | .setText label text => ∀ a, Address.ofText label = .ok a → Formula.isFormula text = true →
    Formula.IsCovered registry text
  | .clear _ => True
  | _ => False

theorem Edit.EntersOrClears.keepsSettled {e : Edit} (he : e.EntersOrClears registry) :
    e.KeepsSettled registry := by
  cases e with
  | setText => exact he
  | clear => trivial
  | _ => exact he.elim

namespace Sheet

variable {s s' : Sheet}

/-- What holds along a history of entries: the sheet is stable, and all its cells were entered. -/
structure IsEntered (registry : Registry) (s : Sheet) : Prop where
  stable : s.IsStable registry
  cells : s.grid.CellsSatisfy Cell.IsEntered

namespace IsEntered

theorem of_new {config : Config} (h : Sheet.new config registry = .ok s) :
    s.IsEntered registry := by
  refine ⟨isStable_of_new h, ?_⟩
  obtain ⟨_, -, rfl⟩ := Except.map_eq_ok_iff.1 h
  intro a c hc
  simp [blank] at hc

theorem effect {e : Edit} (h : s.IsEntered registry) (he : e.EntersOrClears registry)
    (heffect : e.Effect s s') : s'.IsEntered registry := by
  refine ⟨h.stable.effect he.keepsSettled heffect, ?_⟩
  cases heffect with
  | setText => exact (h.cells.isEntered_enterText _ _).propagate Grid.isValueFree_isEntered
  | clear =>
    rw [Sheet.erase]
    split
    · exact (h.cells.erase _).propagate Grid.isValueFree_isEntered
    · exact h.cells
  | _ => exact he.elim

theorem run {history : List Edit} (h : s.IsEntered registry)
    (hhistory : ∀ e ∈ history, e.EntersOrClears registry) : (s.run history).IsEntered registry :=
  run_induction h fun _ h e he _ heffect => h.effect (hhistory e he) heffect

/-- A sheet of entered cells is not changed by a full recalculation. -/
theorem recalculate_eq_self (h : s.IsEntered registry) : s.recalculate = s :=
  h.stable.recalculate_eq_self

end IsEntered

/-- **The texts in the end determine the sheet**: two histories that enter covered texts and clear
cells store equal cells if they store the same texts, and nothing is left to recalculate. -/
theorem grid_run_eq {config config' : Config} {history history' : List Edit}
    (hs : Sheet.new config registry = .ok s) (hs' : Sheet.new config' registry = .ok s')
    (hhistory : ∀ e ∈ history, e.EntersOrClears registry)
    (hhistory' : ∀ e ∈ history', e.EntersOrClears registry)
    (htexts : (s.run history).grid.texts = (s'.run history').grid.texts) :
    (s.run history).grid = (s'.run history').grid ∧
      (s.run history).recalculate = s.run history ∧
        (s'.run history').recalculate = s'.run history' := by
  have h : (s.run history).IsEntered registry := (IsEntered.of_new hs).run hhistory
  have h' : (s'.run history').IsEntered registry := (IsEntered.of_new hs').run hhistory'
  refine ⟨?_, h.recalculate_eq_self, h'.recalculate_eq_self⟩
  exact Grid.eq_of_texts_eq h'.stable.formulas h'.stable.settled h.stable.settled h'.cells h.cells
    htexts

/-- A cycle that is formed and broken leaves no trace. -/
theorem grid_run_eq_broken_cycle :
    let s := (Sheet.blank {} .builtin).run
      [.setText "A1" "=B1", .setText "B1" "=A1", .setText "C1" "=A1", .setText "B1" "7"]
    let s' := (Sheet.blank { rows := 2 } .builtin).run
      [.setText "C1" "=A1", .setText "A1" "x", .setText "B1" "7", .clear "A1",
        .setText "A1" "=B1"]
    s.grid.texts = s'.grid.texts ∧ s.grid = s'.grid ∧ s.recalculate = s := by
  intro s s'
  have hb : Formula.IsCovered .builtin "=B1" :=
    Formula.isCovered_of_reference (a := ⟨0, 1⟩) (by decide +kernel)
  have ha : Formula.IsCovered .builtin "=A1" :=
    Formula.isCovered_of_reference (a := ⟨0, 0⟩) (by decide +kernel)
  have htexts : s.grid.texts = s'.grid.texts := by decide +kernel
  have hnew : Sheet.new {} .builtin = .ok (Sheet.blank {} .builtin) := rfl
  have hnew' : Sheet.new { rows := 2 } .builtin = .ok (Sheet.blank { rows := 2 } .builtin) := rfl
  have hall := grid_run_eq hnew hnew' (by simp [Edit.EntersOrClears, ha, hb, Formula.isFormula])
    (by simp [Edit.EntersOrClears, ha, hb, Formula.isFormula]) htexts
  exact ⟨htexts, hall.1, hall.2.1⟩

end Sheet

end Spreadsheet
