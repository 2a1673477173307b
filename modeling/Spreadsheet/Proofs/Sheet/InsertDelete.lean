import Spreadsheet.Proofs.Sheet.History
import Spreadsheet.Proofs.Sheet.Sizes

/-!
# Inserting and deleting a line

A line that is inserted into a settled sheet and deleted again leaves every cell as it was
(`Sheet.deleteLine_insertLine`). Formulas keep their texts when they move, so in between they may
read other cells, and cycles may be formed and broken. The cells themselves go there and back
(`Axis.closeUp_eq_some_iff_makeRoom`), and what the formulas come to is settled again by the last
recalculation.

* `Grid.insertLine` is the grid while the line is there, `Grid.moveBack` the grid with the cells in
  their places again, before anything is recomputed.
-/

namespace Spreadsheet

/-! ## There and back -/

namespace Axis

variable {axis : Axis} {i : Coord} {a k : Address}

/-- Two addresses that agree but for their coordinates on an axis. -/
theorem withCoord_eq_comm :
    axis.withCoord a (axis.coord k) = k ↔ axis.withCoord k (axis.coord a) = a := by
  obtain ⟨row, column⟩ := a
  obtain ⟨row', column'⟩ := k
  cases axis <;> simp [withCoord, coord, eq_comm]

/-- Closing up a line takes back what making room for it has done. -/
theorem closeUp_eq_some_iff_makeRoom :
    axis.closeUp i k = some a ↔ axis.makeRoom i a = some k := by
  rw [closeUp_eq_some_iff, makeRoom_eq_some_iff, withCoord_eq_comm]
  simp only [Fin.lt_def, Fin.le_def]
  constructor
  · rintro (⟨hki, rfl⟩ | ⟨hik, hka, hback⟩)
    · exact .inl ⟨hki, rfl⟩
    · exact .inr ⟨by omega, hka, hback⟩
  · rintro (⟨hai, rfl⟩ | ⟨hia, hka, hback⟩)
    · exact .inl ⟨hai, rfl⟩
    · exact .inr ⟨by omega, hka, hback⟩

/-- A cell before the last line of the axis has somewhere to go. -/
theorem exists_makeRoom (ha : (axis.coord a).val + 1 < Coord.count) :
    ∃ k, axis.makeRoom i a = some k := by
  rw [makeRoom]
  split
  · exact ⟨a, rfl⟩
  · have hnext : (axis.coord a).next? = some ⟨(axis.coord a).val + 1, ha⟩ :=
      Coord.ofNat?_eq_some_iff.2 rfl
    exact ⟨_, Option.map_eq_some_iff.2 ⟨_, hnext, rfl⟩⟩

/-- No cell comes back to the last line of the axis. -/
theorem coord_lt_of_makeRoom (h : axis.makeRoom i a = some k) :
    (axis.coord a).val + 1 < Coord.count := by
  simp only [Coord.count]
  rcases makeRoom_eq_some_iff.1 h with ⟨hai, -⟩ | ⟨-, hka, -⟩
  · have := Fin.lt_def.1 hai
    omega
  · omega

end Axis

namespace Grid

variable {registry : Registry} {g : Grid} {axis : Axis} {i : Coord} {a k : Address}

/-- The grid after a line is inserted. -/
def insertLine (registry : Registry) (axis : Axis) (i : Coord) (g : Grid) : Grid :=
  (g.relocate (axis.makeRoom i)).recalculate registry

/-- The grid after a line is inserted and the cells are moved back, before anything is
recomputed. -/
def moveBack (registry : Registry) (axis : Axis) (i : Coord) (g : Grid) : Grid :=
  (g.insertLine registry axis i).relocate (axis.closeUp i)

theorem getElem?_moveBack (h : axis.makeRoom i a = some k) :
    (g.moveBack registry axis i)[a]? = (g.insertLine registry axis i)[k]? :=
  getElem?_relocate_of_eq_some Axis.closeUp_injective (Axis.closeUp_eq_some_iff_makeRoom.2 h)

theorem getElem?_moveBack_of_last (ha : ¬(axis.coord a).val + 1 < Coord.count) :
    (g.moveBack registry axis i)[a]? = none :=
  getElem?_relocate_of_ne Axis.closeUp_injective fun _ hk =>
    ha (Axis.coord_lt_of_makeRoom (Axis.closeUp_eq_some_iff_makeRoom.1 hk))

/-- The cells come back as they were, computed values apart. -/
theorem sameEntries_moveBack (hlast : ∀ a ∈ g, (axis.coord a).val + 1 < Coord.count) :
    (g.moveBack registry axis i).SameEntries g := by
  intro a
  by_cases ha : (axis.coord a).val + 1 < Coord.count
  · obtain ⟨k, hk⟩ := Axis.exists_makeRoom (i := i) ha
    have hsame : (g.insertLine registry axis i).SameEntries (g.relocate (axis.makeRoom i)) :=
      (SameEntries.refl _).recalculate
    rw [getElem?_moveBack hk, hsame k,
      getElem?_relocate_of_eq_some Axis.makeRoom_injective hk]
  · rw [getElem?_moveBack_of_last ha, Std.ExtTreeMap.getElem?_eq_none (mt (hlast a) ha)]

/-- Cells without formulas come back with their values. -/
theorem getElem?_moveBack_of_formula?_eq_none
    (hlast : ∀ a ∈ g, (axis.coord a).val + 1 < Coord.count) (hf : g.formula? a = none) :
    (g.moveBack registry axis i)[a]? = g[a]? := by
  by_cases ha : (axis.coord a).val + 1 < Coord.count
  · obtain ⟨k, hk⟩ := Axis.exists_makeRoom (i := i) ha
    have hmoved : (g.relocate (axis.makeRoom i))[k]? = g[a]? :=
      getElem?_relocate_of_eq_some Axis.makeRoom_injective hk
    have hnone : (g.relocate (axis.makeRoom i)).formula? k = none := by
      rw [formula?, hmoved]
      exact hf
    rw [getElem?_moveBack hk, insertLine, getElem?_recalculate hnone, hmoved]
  · rw [getElem?_moveBack_of_last ha, Std.ExtTreeMap.getElem?_eq_none (mt (hlast a) ha)]

/-- **Recalculating restores a settled grid** when its cells are back. -/
theorem recalculate_moveBack (hg : g.FormulasSatisfy (Formula.IsReliable registry))
    (hsettled : g.IsSettled registry)
    (hlast : ∀ a ∈ g, (axis.coord a).val + 1 < Coord.count) :
    (g.moveBack registry axis i).recalculate registry = g :=
  recalculate_eq hg hsettled (sameEntries_moveBack hlast) fun _ hf =>
    getElem?_moveBack_of_formula?_eq_none hlast hf

end Grid

namespace Sheet

variable {s : Sheet} {axis : Axis} {i : Coord}

theorem grid_deleteLine_insertLine :
    ((s.insertLine axis i).deleteLine axis i).grid =
      (s.grid.moveBack s.registry axis i).recalculate s.registry := by
  cases axis <;> rfl

/-- **Inserting a line and deleting it again** leaves every cell of a settled sheet as it was, if no
cell is stored on the last line of the axis. The sizes are as they were too, but for the last one of
an axis that the line was inserted into. There are as many sizes as lines are configured
(`Sheet.fitsConfig_run`). -/
theorem deleteLine_insertLine
    (hformulas : s.grid.FormulasSatisfy (Formula.IsReliable s.registry))
    (hsettled : s.grid.IsSettled s.registry)
    (hlast : ∀ a ∈ s.grid, (axis.coord a).val + 1 < Coord.count) :
    ((s.insertLine axis i).deleteLine axis i).grid = s.grid ∧
      (∀ k, (((s.insertLine axis i).deleteLine axis i).sizes axis).get? k =
        if i.val < (s.sizes axis).slots.length ∧ k + 1 = (s.sizes axis).slots.length then
          some (s.sizes axis).standard
        else (s.sizes axis).get? k) ∧
      ∀ other, other ≠ axis →
        ((s.insertLine axis i).deleteLine axis i).sizes other = s.sizes other := by
  refine ⟨?_, fun k => ?_, fun other hother => ?_⟩
  · rw [grid_deleteLine_insertLine, Grid.recalculate_moveBack hformulas hsettled hlast]
  · rw [sizes_deleteLine_self, sizes_insertLine_self, Sizes.get?_delete_insert]
  · rw [sizes_deleteLine_of_ne hother, sizes_insertLine_of_ne hother]

/-- While the line is there, a formula reads its own cell. The size of the last row is lost. -/
theorem deleteLine_insertLine_through_cycle :
    let s := ((Sheet.blank {} .builtin).run
      [.setText "A1" "5", .setText "A2" "=A3", .setText "A3" "=A1"]).setSize .row 99 40
    (s.grid.IsSettled s.registry ∧ s.grid.formula? ⟨1, 0⟩ = some "=A3" ∧
      (s.insertLine .row 1).grid.value ⟨2, 0⟩ = .error .circular) ∧
    ((s.insertLine .row 1).deleteLine .row 1).grid = s.grid ∧
      s.size? .row 99 = some 40 ∧
        ((s.insertLine .row 1).deleteLine .row 1).size? .row 99 = some 25 := by
  intro s
  have hliteral : Formula.isFormula "5" = false := by decide
  have hfirst : Formula.IsCovered .builtin "=A3" :=
    Formula.isCovered_of_reference (a := ⟨2, 0⟩) (by decide +kernel)
  have hsecond : Formula.IsCovered .builtin "=A1" :=
    Formula.isCovered_of_reference (a := ⟨0, 0⟩) (by decide +kernel)
  have hnew : Sheet.new {} .builtin = .ok (Sheet.blank {} .builtin) := rfl
  have hentered : ((Sheet.blank {} .builtin).run
      [.setText "A1" "5", .setText "A2" "=A3", .setText "A3" "=A1"]).IsEntered .builtin :=
    (IsEntered.of_new hnew).run (by simp [Edit.EntersOrClears, hliteral, hfirst, hsecond])
  have hs : s.IsStable .builtin := hentered.stable.withSizes _ _
  have hregistry : s.registry = .builtin := hs.registry_eq
  have hlast : ∀ a ∈ s.grid.keys, (Axis.row.coord a).val + 1 < Coord.count := by decide +kernel
  obtain ⟨hgrid, hsizes, -⟩ := @deleteLine_insertLine s .row 1
    (hregistry ▸ hs.formulas) (hregistry ▸ hs.settled)
    fun a ha => hlast a (Std.ExtTreeMap.mem_keys.2 ha)
  exact ⟨⟨hregistry ▸ hs.settled, by decide +kernel, by decide +kernel⟩, hgrid, by decide +kernel,
    (hsizes 99).trans (by decide +kernel)⟩

end Sheet

end Spreadsheet
