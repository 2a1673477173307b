import Spreadsheet.Proofs.Sheet.Effect
import Spreadsheet.Proofs.Sheet.Placement

/-!
# Which cells an edit changes

Every edit of cells first changes a grid and then recomputes. This module describes the grid in
between: away from the changed cells it is the old one, and all its formulas are old ones, but for
the text that was entered.

* `Grid.enterText` is the grid with a text entered and evaluated.
* `Grid.Removes` says that some cells are taken away and nothing else changes.
* `Grid.relocate` along `Axis.makeRoom` and `Axis.closeUp` sends no two cells to one place.
-/

namespace Spreadsheet

namespace Grid

variable {registry : Registry} {g h : Grid} {P : String → Prop} {a b : Address} {text f : String}
  {sources : List Address}

theorem formulasSatisfy_empty : FormulasSatisfy P ∅ := by
  intro a f hf
  simp [formula?] at hf

/-! ## Entering a text -/

/-- The grid with a text entered at an address and evaluated there. -/
def enterText (registry : Registry) (g : Grid) (a : Address) (text : String) : Grid :=
  let entered : Grid := g.insert a ((g.getD a {}).enter text)
  entered.setValue a (entered.result registry entered.graph a text)

theorem getElem?_enterText_of_ne (hab : a ≠ b) : (g.enterText registry a text)[b]? = g[b]? := by
  rw [enterText, getElem?_setValue, if_neg hab, Std.ExtTreeMap.getElem?_insert,
    if_neg (by simpa using hab)]

theorem formula?_enterText_self :
    (g.enterText registry a text).formula? a =
      if Formula.isFormula text then some text else none := by
  rw [enterText, formula?_setValue, formula?, Std.ExtTreeMap.getElem?_insert_self]
  rfl

theorem eq_of_formula?_enterText (hf : (g.enterText registry a text).formula? a = some f) :
    f = text ∧ Formula.isFormula text = true := by
  rw [formula?_enterText_self] at hf
  split at hf
  · rename_i hformula
    exact ⟨(Option.some.inj hf).symm, hformula⟩
  · cases hf

/-- The value of an entered formula is what it comes to over the grid with its old value. -/
theorem value_enterText_self (registry : Registry) (g : Grid) (a : Address) (text : String) :
    ∃ entered : Grid, (∀ b, b ≠ a → (g.enterText registry a text)[b]? = entered[b]?) ∧
      (g.enterText registry a text).value a =
        entered.result registry (g.enterText registry a text).graph a text := by
  let entered : Grid := g.insert a ((g.getD a {}).enter text)
  have hgraph : (g.enterText registry a text).graph = entered.graph :=
    graph_congr fun b => formula?_setValue ..
  refine ⟨entered, fun b hb => ?_, ?_⟩
  · rw [enterText, getElem?_setValue, if_neg (Ne.symm hb)]
  · rw [hgraph]
    exact value_setValue_self (Std.ExtTreeMap.mem_insert_self)

/-- The formulas after a text is entered. -/
theorem FormulasSatisfy.enterText (hg : g.FormulasSatisfy P)
    (htext : Formula.isFormula text = true → P text) :
    (g.enterText registry a text).FormulasSatisfy P := by
  intro b f hf
  by_cases hab : a = b
  · subst hab
    obtain ⟨rfl, hformula⟩ := eq_of_formula?_enterText hf
    exact htext hformula
  · exact hg b f (by rwa [formula?_congr (getElem?_enterText_of_ne hab)] at hf)

/-! ## Taking cells away -/

/-- The second grid is the first one without the cells at some addresses. -/
structure Removes (g h : Grid) (sources : List Address) : Prop where
  agree : ∀ b, b ∉ sources → g[b]? = h[b]?
  removed : ∀ a ∈ sources, h[a]? = none

theorem Removes.formula?_eq_none (hgh : g.Removes h sources) (ha : a ∈ sources) :
    h.formula? a = none := by
  rw [formula?, hgh.removed a ha]
  rfl

theorem FormulasSatisfy.removes (hg : g.FormulasSatisfy P) (hgh : g.Removes h sources) :
    h.FormulasSatisfy P := by
  intro b f hf
  by_cases hb : b ∈ sources
  · rw [hgh.formula?_eq_none hb] at hf
    cases hf
  · exact hg b f ((formula?_congr (hgh.agree b hb)).trans hf)

theorem removes_erase : g.Removes (g.erase a) [a] where
  agree b hb := by
    have hab : a ≠ b := Ne.symm (List.ne_of_not_mem_cons hb)
    rw [Std.ExtTreeMap.getElem?_erase, if_neg (by simpa using hab)]
  removed b hb := by
    obtain rfl := List.mem_singleton.1 hb
    exact Std.ExtTreeMap.getElem?_erase_self

theorem mem_keys_restrict {p : Address → Bool} : a ∈ (g.restrict p).keys ↔ p a ∧ a ∈ g := by
  rw [Std.ExtTreeMap.mem_keys, Std.ExtTreeMap.mem_iff_isSome_getElem?, getElem?_restrict,
    Std.ExtTreeMap.mem_iff_isSome_getElem?]
  cases p a <;> simp

/-- Taking out the cells whose addresses satisfy a test. -/
theorem removes_restrict {p : Address → Bool} :
    g.Removes (g.restrict fun a => !p a) (g.restrict p).keys where
  agree b hb := by
    rw [getElem?_restrict]
    cases hp : p b with
    | false => rfl
    | true =>
      have hnot : b ∉ g := fun h => hb (mem_keys_restrict.2 ⟨hp, h⟩)
      simp [Std.ExtTreeMap.getElem?_eq_none hnot]
  removed a ha := by
    rw [getElem?_restrict, (mem_keys_restrict.1 ha).1]
    rfl

theorem FormulasSatisfy.restrict {p : Address → Bool} (hg : g.FormulasSatisfy P) :
    (g.restrict p).FormulasSatisfy P := by
  intro b f hf
  obtain ⟨c, hc, hcf⟩ := exists_of_formula? hf
  rw [getElem?_restrict] at hc
  split at hc
  · exact hg b f (by rw [formula?_of_getElem? hc, hcf])
  · cases hc

/-! ## Moving cells along an axis -/

/-- A cell that is moved is found at its new address. -/
theorem getElem?_relocate_of_eq_some {move : Address → Option Address} {k : Address}
    (hinj : ∀ a b k, move a = some k → move b = some k → a = b) (hk : move a = some k) :
    (g.relocate move)[k]? = g[a]? := by
  refine Option.ext fun c => ?_
  rw [getElem?_relocate g hinj]
  constructor
  · rintro ⟨b, hb, hc⟩
    rwa [hinj a b k hk hb]
  · exact fun hc => ⟨a, hk, hc⟩

theorem getElem?_relocate_of_ne {move : Address → Option Address} {k : Address}
    (hinj : ∀ a b k, move a = some k → move b = some k → a = b) (hk : ∀ a, move a ≠ some k) :
    (g.relocate move)[k]? = none := by
  refine Option.eq_none_iff_forall_ne_some.2 fun c hc => ?_
  obtain ⟨a, ha, -⟩ := (getElem?_relocate g hinj).1 hc
  exact hk a ha

/-- After a move that sends no two cells to one place the formulas are old ones. -/
theorem FormulasSatisfy.relocate {move : Address → Option Address} (hg : g.FormulasSatisfy P)
    (hinj : ∀ a b k, move a = some k → move b = some k → a = b) :
    (g.relocate move).FormulasSatisfy P := by
  intro k f hf
  obtain ⟨c, hc, hcf⟩ := exists_of_formula? hf
  obtain ⟨a, -, ha⟩ := (getElem?_relocate g hinj).1 hc
  exact hg a f (by rw [formula?_of_getElem? ha, hcf])

/-! ## Changing cells in place -/

/-- A patch of the style in a cell, which is created if need be. -/
def restyle (g : Grid) (a : Address) (patch : StylePatch) : Grid :=
  g.insert a { g.getD a {} with style := (g.getD a {}).style.apply patch }

theorem formula?_restyle (patch : StylePatch) : (g.restyle a patch).formula? b = g.formula? b := by
  rw [restyle, formula?, formula?, Std.ExtTreeMap.getElem?_insert]
  by_cases hab : a = b
  · subst hab
    cases hc : g[a]? <;> simp [Std.ExtTreeMap.getD_eq_getD_getElem?, hc]
  · simp [hab]

theorem value_restyle (patch : StylePatch) : (g.restyle a patch).value b = g.value b := by
  rw [restyle, value, value, Std.ExtTreeMap.getElem?_insert]
  by_cases hab : a = b
  · subst hab
    cases hc : g[a]? <;> simp [Std.ExtTreeMap.getD_eq_getD_getElem?, hc]
  · simp [hab]

end Grid

namespace Axis

variable {axis : Axis} {i c d : Coord} {a b k : Address}

theorem coord_withCoord : axis.coord (axis.withCoord a c) = c := by
  cases axis <;> rfl

theorem withCoord_withCoord : axis.withCoord (axis.withCoord a c) d = axis.withCoord a d := by
  cases axis <;> rfl

theorem eq_of_withCoord_eq (h : axis.withCoord a c = axis.withCoord b d)
    (hcoord : axis.coord a = axis.coord b) : a = b := by
  obtain ⟨row, column⟩ := a
  obtain ⟨row', column'⟩ := b
  cases axis <;> simp_all [withCoord, coord]

/-- The step from one coordinate to another, read off the address that is reached. -/
theorem map_withCoord_eq_some_iff {next : Option Coord} :
    next.map (axis.withCoord a) = some k ↔
      next = some (axis.coord k) ∧ axis.withCoord a (axis.coord k) = k := by
  rw [Option.map_eq_some_iff]
  constructor
  · rintro ⟨c, hc, rfl⟩
    simp [hc, coord_withCoord]
  · rintro ⟨hc, hk⟩
    exact ⟨_, hc, hk⟩

theorem makeRoom_eq_some_iff :
    axis.makeRoom i a = some k ↔
      axis.coord a < i ∧ a = k ∨
        i ≤ axis.coord a ∧ (axis.coord k).val = (axis.coord a).val + 1 ∧
          axis.withCoord a (axis.coord k) = k := by
  simp only [makeRoom]
  by_cases hlt : axis.coord a < i
  · simp [hlt, Fin.not_le.2 hlt]
  · rw [if_neg hlt, map_withCoord_eq_some_iff, Coord.next?, Coord.ofNat?_eq_some_iff]
    simp [hlt, Fin.not_lt.1 hlt]

theorem closeUp_eq_some_iff :
    axis.closeUp i a = some k ↔
      axis.coord a < i ∧ a = k ∨
        i < axis.coord a ∧ (axis.coord a).val = (axis.coord k).val + 1 ∧
          axis.withCoord a (axis.coord k) = k := by
  have hprevious {c d : Coord} : c.previous? = some d ↔ c.val = d.val + 1 := by
    unfold Coord.previous?
    split
    · simp_all
    · rename_i n hn
      rw [Coord.ofNat?_eq_some_iff, hn]
      omega
  simp only [closeUp]
  by_cases hlt : axis.coord a < i
  · simp [hlt, Fin.not_lt.2 (Fin.le_of_lt hlt)]
  · by_cases heq : axis.coord a = i
    · simp [heq]
    · have hgt : i < axis.coord a := by
        rw [Fin.ext_iff] at heq
        rw [Fin.lt_def] at hlt ⊢
        omega
      rw [if_neg hlt, if_neg heq, map_withCoord_eq_some_iff, hprevious]
      simp [hlt, hgt]

/-- No two cells come to one place when room is made. -/
theorem makeRoom_injective (a b k : Address) (ha : axis.makeRoom i a = some k)
    (hb : axis.makeRoom i b = some k) : a = b := by
  rcases makeRoom_eq_some_iff.1 ha with ⟨hai, hak⟩ | ⟨hai, hak, hka⟩ <;>
    rcases makeRoom_eq_some_iff.1 hb with ⟨hbi, hbk⟩ | ⟨hbi, hbk, hkb⟩
  · exact hak.trans hbk.symm
  · have := Fin.lt_def.1 (hak ▸ hai)
    have := Fin.le_def.1 hbi
    omega
  · have := Fin.lt_def.1 (hbk ▸ hbi)
    have := Fin.le_def.1 hai
    omega
  · exact eq_of_withCoord_eq (hka.trans hkb.symm) (Fin.ext (by omega))

/-- No two cells come to one place when a line is closed up. -/
theorem closeUp_injective (a b k : Address) (ha : axis.closeUp i a = some k)
    (hb : axis.closeUp i b = some k) : a = b := by
  rcases closeUp_eq_some_iff.1 ha with ⟨hai, hak⟩ | ⟨hai, hak, hka⟩ <;>
    rcases closeUp_eq_some_iff.1 hb with ⟨hbi, hbk⟩ | ⟨hbi, hbk, hkb⟩
  · exact hak.trans hbk.symm
  · have := Fin.lt_def.1 (hak ▸ hai)
    have := Fin.lt_def.1 hbi
    omega
  · have := Fin.lt_def.1 (hbk ▸ hbi)
    have := Fin.lt_def.1 hai
    omega
  · exact eq_of_withCoord_eq (hka.trans hkb.symm) (Fin.ext (by omega))

end Axis

end Spreadsheet
