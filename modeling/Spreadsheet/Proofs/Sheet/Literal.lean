import Spreadsheet.Proofs.Sheet.Cells

/-!
# Cells without formulas

A cell without a formula shows what was entered in it. Replacements change the text and the value
apart from each other: `x` for `e` makes `1x3` of the text `1e3`, while the value stays the number
1000, whose digits hold no `e`. So along a history the text and the value of such a cell come from
one literal by the same replacements (`Sheet.literal_run`), and without replacements the value is
that of the text (`Sheet.computed_run_of_no_replacement`).

* `Cell.ofLiteral` is a cell into which a text was entered that is no formula.
* `Cell.IsLiteral` says what a cell without a formula holds after some replacements.
* `replacements` lists the replacements of a history.
-/

namespace Spreadsheet

variable {registry : Registry} {rs : List (String × String)}

/-! ## Literals and replacements -/

namespace Cell

/-- The cell into which a text was entered that is no formula. -/
def ofLiteral (text : String) : Cell :=
  (({} : Cell).enter text).compute (.ofLiteral text)

/-- The cell after a replacement, which passes over a cell whose text does not hold what is
replaced. -/
def replace (c : Cell) (r : String × String) : Cell :=
  if Text.occurs r.1.toList c.raw.toList then Sheet.replaceCell r.1 r.2 c else c

/-- The text and the value are those of an entered literal after some of the replacements `rs`. -/
def ShowsLiteral (rs : List (String × String)) (c : Cell) : Prop :=
  ∃ (text : String) (applied : List (String × String)),
    Formula.isFormula text = false ∧ applied.Sublist rs ∧
    c.raw = (applied.foldl replace (ofLiteral text)).raw ∧
    c.computed = (applied.foldl replace (ofLiteral text)).computed

/-- A cell without a formula was never entered or shows a literal. -/
def IsLiteral (rs : List (String × String)) (c : Cell) : Prop :=
  c.formula = none → c.raw = "" ∧ c.computed = .null ∨ c.ShowsLiteral rs

theorem ShowsLiteral.mono {rs' : List (String × String)} {c : Cell} (h : c.ShowsLiteral rs)
    (hrs : rs.Sublist rs') : c.ShowsLiteral rs' := by
  obtain ⟨text, applied, htext, happlied, hshown⟩ := h
  exact ⟨text, applied, htext, happlied.trans hrs, hshown⟩

theorem ShowsLiteral.of_enter {text : String} (htext : Formula.isFormula text = false) (c : Cell) :
    ((c.enter text).compute (.ofLiteral text)).ShowsLiteral rs :=
  ⟨text, [], htext, List.nil_sublist rs, rfl, rfl⟩

/-- One more replacement in a cell that it does not pass over. -/
theorem ShowsLiteral.replaceCell {c : Cell} {find new : String} (h : c.ShowsLiteral rs)
    (hfind : Text.occurs find.toList c.raw.toList = true) :
    (Sheet.replaceCell find new c).ShowsLiteral (rs ++ [(find, new)]) := by
  obtain ⟨text, applied, htext, happlied, hraw, hcomputed⟩ := h
  rw [hraw] at hfind
  refine ⟨text, applied ++ [(find, new)], htext, happlied.append (List.Sublist.refl _), ?_, ?_⟩
  · rw [List.foldl_concat, Cell.replace, if_pos hfind]
    exact congrArg (Sheet.replaceText find new) hraw
  · rw [List.foldl_concat, Cell.replace, if_pos hfind]
    exact congrArg (Sheet.replaceValue find new) hcomputed

/-- Without replacements a literal has the value of its text. -/
theorem ShowsLiteral.computed_eq {c : Cell} (h : c.ShowsLiteral []) :
    c.computed = .ofLiteral c.raw := by
  obtain ⟨text, applied, -, happlied, hraw, hcomputed⟩ := h
  obtain rfl := List.sublist_nil.1 happlied
  rw [hraw, hcomputed]
  rfl

theorem IsLiteral.mono {rs' : List (String × String)} {c : Cell} (h : c.IsLiteral rs)
    (hrs : rs.Sublist rs') : c.IsLiteral rs' :=
  fun hc => (h hc).imp_right fun hshown => hshown.mono hrs

theorem isKept_isLiteral (rs : List (String × String)) : IsKept (IsLiteral rs) where
  blank _ := .inl ⟨rfl, rfl⟩
  enter c text v _ hv hnone := by
    have htext : Formula.isFormula text = false := by
      simpa [Cell.enter, Cell.compute] using hnone
    rw [hv htext]
    exact .inr (.of_enter htext c)
  restyle _ _ h := h
  valueFree c v hformula _ hnone := by
    have hc : c.formula = none := hnone
    simp [hc] at hformula

/-- A cell that was never entered holds no text that could be replaced. -/
theorem IsLiteral.replaceCell {c : Cell} {find new : String} (h : c.IsLiteral rs)
    (hempty : find.isEmpty = false) (hfind : Text.occurs find.toList c.raw.toList = true) :
    (Sheet.replaceCell find new c).IsLiteral (rs ++ [(find, new)]) := by
  intro hnone
  rcases h hnone with ⟨hraw, -⟩ | hshown
  · have hempty' : find = "" := by simpa [hraw, Text.occurs] using hfind
    simp [hempty'] at hempty
  · exact .inr (hshown.replaceCell hfind)

end Cell

/-- The replacements of a history: what is replaced and by what. The empty text is never
replaced. -/
def replacements (history : List Edit) : List (String × String) :=
  history.filterMap fun
    | .replace _ _ find new => if find.isEmpty then none else some (find, new)
    | _ => none

/-! ## Histories -/

namespace Sheet

variable {s s' : Sheet}

/-- After an edit, cells show literals after one replacement more if the edit is one. -/
theorem CellsSatisfy.effect_isLiteral {e : Edit} (h : s.CellsSatisfy (Cell.IsLiteral rs))
    (heffect : e.Effect s s') : s'.CellsSatisfy (Cell.IsLiteral (rs ++ replacements [e])) := by
  refine h.effect (Cell.isKept_isLiteral _) (fun c hc => hc.mono (List.sublist_append_left _ _))
    (fun first last find new he hempty c hc hfind => ?_) heffect
  have hreplacements : replacements [e] = [(find, new)] := by
    rw [he, replacements, List.filterMap_cons_some (b := (find, new)) (by simp only [hempty]; rfl)]
    rfl
  rw [hreplacements]
  exact hc.replaceCell hempty hfind

/-- Along a history the replacements add up. -/
theorem CellsSatisfy.run_isLiteral {history : List Edit} (h : s.CellsSatisfy (Cell.IsLiteral rs)) :
    (s.run history).CellsSatisfy (Cell.IsLiteral (rs ++ replacements history)) := by
  induction history generalizing s rs with
  | nil => exact h.mono fun c hc => hc.mono (List.sublist_append_left _ _)
  | cons e history ih =>
    have happly : (s.apply e).CellsSatisfy (Cell.IsLiteral (rs ++ replacements [e])) := by
      rcases s.apply_effect e with hrefused | heffect
      · rw [hrefused]
        exact h.mono fun c hc => hc.mono (List.sublist_append_left _ _)
      · exact h.effect_isLiteral heffect
    have hsplit : replacements (e :: history) = replacements [e] ++ replacements history :=
      List.filterMap_append (l := [e])
    rw [hsplit, ← List.append_assoc]
    exact ih happly

theorem isLiteral_run {config : Config} {history : List Edit} {a : Address} {c : Cell}
    (hs : Sheet.new config registry = .ok s) (hc : (s.run history).grid[a]? = some c) :
    c.IsLiteral (replacements history) := by
  have hcells : (s.run history).CellsSatisfy (Cell.IsLiteral ([] ++ replacements history)) :=
    (cellsSatisfy_of_new hs).run_isLiteral
  exact hcells.grid a c hc

/-- **Cells without formulas show literals**: after every history of edits, a stored cell without a
formula was never entered, or its text and its value are those of an entered literal after some of
the replacements of the history, in their order. -/
theorem literal_run {config : Config} {history : List Edit} {a : Address} {c : Cell}
    (hs : Sheet.new config registry = .ok s) (hc : (s.run history).grid[a]? = some c)
    (hformula : c.formula = none) :
    c.raw = "" ∧ c.computed = .null ∨ c.ShowsLiteral (replacements history) :=
  isLiteral_run hs hc hformula

/-- The zeros of a numeral that are replaced in the text are not among the digits of its value. -/
theorem literal_run_leading_zeros :
    let s := (Sheet.blank {} .builtin).run [.setText "A1" "007", .replace "A1" "A1" "0" "1"]
    let c : Cell := { raw := "117", computed := .number 7 }
    (s.grid[(⟨0, 0⟩ : Address)]? = some c ∧ c.formula = none) ∧ c.ShowsLiteral [("0", "1")] := by
  intro s c
  have hnew : Sheet.new {} .builtin = .ok (Sheet.blank {} .builtin) := rfl
  have hc : s.grid[(⟨0, 0⟩ : Address)]? = some c := by decide +kernel
  exact ⟨⟨hc, rfl⟩, (literal_run hnew hc rfl).resolve_left (by simp [c])⟩

/-- The value of a cell without a formula need not be that of its text. -/
theorem computed_ne_of_replacement :
    ¬∀ (config : Config) (registry : Registry) (s : Sheet) (history : List Edit) (a : Address)
      (c : Cell), Sheet.new config registry = .ok s → (s.run history).grid[a]? = some c →
        c.formula = none → c.computed = .ofLiteral c.raw ∨ c.raw = "" ∧ c.computed = .null := by
  intro h
  have hcell := h {} .builtin (Sheet.blank {} .builtin)
    [.setText "A1" "1e3", .replace "A1" "A1" "e" "x"] ⟨0, 0⟩
    { raw := "1x3", computed := .number 1000 } rfl (by decide +kernel) rfl
  revert hcell
  decide +kernel

/-- **Without replacements** the value of a cell without a formula is that of its text, unless the
cell was never entered. -/
theorem computed_run_of_no_replacement {config : Config} {history : List Edit} {a : Address}
    {c : Cell} (hs : Sheet.new config registry = .ok s) (hhistory : replacements history = [])
    (hc : (s.run history).grid[a]? = some c) (hformula : c.formula = none) :
    c.raw = "" ∧ c.computed = .null ∨ c.computed = .ofLiteral c.raw := by
  have hliteral := isLiteral_run hs hc hformula
  rw [hhistory] at hliteral
  exact hliteral.imp_right Cell.ShowsLiteral.computed_eq

end Sheet

end Spreadsheet
