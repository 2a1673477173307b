import Spreadsheet.Proofs.Formula.CallCoverage
import Spreadsheet.Proofs.Sheet.Settled

/-!
# Full recalculation forgets old results

What a full recalculation makes of a sheet depends on what is given in its cells, their formulas and
the values of cells without formulas, and not on what the formula cells held before
(`Sheet.recalculate_eq_of_given_eq`).
-/

namespace Spreadsheet

/-- What is given in a cell: its formula, or its value if it has none. -/
def Cell.given (c : Cell) : Cell where
  formula := c.formula
  computed := if c.formula.isSome then .null else c.computed

namespace Grid

variable {registry : Registry} {g h : Grid} {a : Address}

/-- What is given at every stored address. -/
def given (g : Grid) : Grid :=
  g.map fun _ c => c.given

theorem getElem?_given (g : Grid) (a : Address) : g.given[a]? = g[a]?.map Cell.given :=
  Std.ExtTreeMap.getElem?_map

@[simp] theorem formula?_given (g : Grid) (a : Address) : g.given.formula? a = g.formula? a := by
  rw [formula?, getElem?_given, formula?]
  cases g[a]? <;> rfl

theorem value_given (ha : g.formula? a = none) : g.given.value a = g.value a := by
  rw [formula?] at ha
  rw [value, getElem?_given, value]
  cases hc : g[a]? with
  | none => rfl
  | some c =>
    have hf : c.formula = none := by simpa [hc] using ha
    simp [Cell.given, hf]

/-- A full recalculation leaves alone what is given. -/
theorem given_recalculate (g : Grid) : (g.recalculate registry).given = g.given := by
  refine Std.ExtTreeMap.ext_getElem? fun {a} => ?_
  rw [getElem?_given, getElem?_given]
  cases hf : g.formula? a with
  | none => rw [getElem?_recalculate hf]
  | some f =>
    have hgiven {g' : Grid} (hf' : g'.formula? a = some f) :
        g'[a]?.map Cell.given = some { formula := some f } := by
      obtain ⟨c, hc, hcf⟩ := exists_of_formula? hf'
      simp [hc, Cell.given, hcf]
    rw [hgiven hf, hgiven (by simpa using hf)]

/-- Settled grids in which the same is given hold the same values. -/
theorem map_computed_eq_of_given_eq (hg : g.FormulasSatisfy (Formula.IsReliable registry))
    (hsettled : g.IsSettled registry) (hsettled' : h.IsSettled registry)
    (hgiven : h.given = g.given) (a : Address) : h[a]?.map Cell.computed = g[a]?.map Cell.computed := by
  have hformula (b : Address) : h.formula? b = g.formula? b := by
    rw [← formula?_given, hgiven, formula?_given]
  have hvalue : h.value a = g.value a :=
    value_eq_of_isSettled hg hsettled hsettled' hformula (fun b hb => by
      rw [← value_given ((hformula b).trans hb), hgiven, value_given hb]) a
  have hstored : h[a]?.map Cell.given = g[a]?.map Cell.given := by
    rw [← getElem?_given, hgiven, getElem?_given]
  rw [value, value] at hvalue
  cases hh : h[a]? <;> cases hg' : g[a]? <;> simp_all

end Grid

namespace Sheet

variable {s t : Sheet}

/-- **Full recalculation forgets old results.** Two sheets that store the same addresses, with the
same formulas and with the same values in the cells without formulas, hold the same values after a
full recalculation, whatever their formula cells held before. Each formula cell then holds the value
of its formula, and a second recalculation changes nothing. -/
theorem recalculate_eq_of_given_eq (hregistry : t.registry = s.registry)
    (hgiven : t.grid.given = s.grid.given)
    (hformulas : s.grid.FormulasSatisfy (Formula.IsReliable s.registry)) :
    (∀ a : Address,
      t.recalculate.grid[a]?.map Cell.computed = s.recalculate.grid[a]?.map Cell.computed) ∧
    (s.recalculate.grid.IsSettled s.registry ∧ s.recalculate.recalculate = s.recalculate) ∧
    (t.recalculate.grid.IsSettled t.registry ∧ t.recalculate.recalculate = t.recalculate) := by
  have hformulas' : t.grid.FormulasSatisfy (Formula.IsReliable t.registry) := fun a f hf => by
    rw [← Grid.formula?_given, hgiven, Grid.formula?_given] at hf
    exact hregistry ▸ hformulas a f hf
  have hs : s.recalculate.IsStable s.registry := .recalculate rfl hformulas
  have ht : t.recalculate.IsStable t.registry := .recalculate rfl hformulas'
  refine ⟨Grid.map_computed_eq_of_given_eq hs.formulas hs.settled (hregistry ▸ ht.settled) ?_,
    ⟨hs.settled, hs.recalculate_eq_self⟩, ht.settled, ht.recalculate_eq_self⟩
  rw [recalculate, recalculate, Grid.given_recalculate, Grid.given_recalculate, hgiven]

/-- A function is registered before the formula that calls it is entered, or only afterwards, so
that the cell holds an error until all is recalculated. -/
theorem recalculate_eq_after_registration :
    let first : Operation := fun values => values.headD .null
    let history : List Edit :=
      [.setText "A1" "x", .setText "B1" "=FIRST(A1)", .setText "C1" "=C1"]
    let s := (Sheet.blank {} (.register .builtin "FIRST" first)).run history
    let t := ((Sheet.blank {} .builtin).run history).register "FIRST" first
    (s.grid.value ⟨0, 1⟩ = .text "x" ∧
      t.grid.value ⟨0, 1⟩ = .error (.unknownFunction "FIRST")) ∧
    t.grid.given = s.grid.given ∧
    (∀ a : Address,
      t.recalculate.grid[a]?.map Cell.computed = s.recalculate.grid[a]?.map Cell.computed) ∧
    t.recalculate.recalculate = t.recalculate := by
  intro first history s t
  have hcall : Formula.Entry.ofText "=FIRST(A1)" = .call "FIRST" ["A1"] := by decide +kernel
  have hcovered (registry : Registry) : Formula.IsCovered registry "=FIRST(A1)" :=
    Formula.isCovered_of_not_isInfix hcall (by decide +kernel)
  have hself (registry : Registry) : Formula.IsCovered registry "=C1" :=
    Formula.isCovered_of_reference (a := ⟨0, 2⟩) (by decide +kernel)
  have hliteral : Formula.isFormula "x" = false := by decide
  have hstable (registry : Registry) :
      ((Sheet.blank {} registry).run history).IsStable registry := by
    have hnew : Sheet.new {} registry = .ok (Sheet.blank {} registry) := rfl
    refine run_induction (isStable_of_new hnew) fun s h e he s' heffect => h.effect ?_ heffect
    revert e
    simp [history, Edit.KeepsSettled, hcovered, hself, hliteral]
  have hs := hstable (.register .builtin "FIRST" first)
  have hregistry : t.registry = s.registry :=
    (congrArg (Registry.register · "FIRST" first) (hstable .builtin).registry_eq).trans
      hs.registry_eq.symm
  have hgiven : t.grid.given = s.grid.given := by decide +kernel
  obtain ⟨hvalues, -, -, hagain⟩ := recalculate_eq_of_given_eq hregistry hgiven
    (hs.registry_eq ▸ hs.formulas)
  exact ⟨⟨by decide +kernel, by decide +kernel⟩, hgiven, hvalues, hagain⟩

end Sheet

end Spreadsheet
