import Mathlib.Logic.Basic
import Spreadsheet.Range

/-!
# Ranges

* `Range.mem_cells_iff`: a range lists exactly the cells that lie in it, its corners among them.
* `Range.mem_rowCoords_iff`, `Range.pairwise_rowCoords`: its rows are listed from the first to the
  last.
* `Range.exists_of_ofText?`: the text of a range consists of two labels with a colon in between.
-/

namespace Spreadsheet.Range

variable {r : Range} {a b : Address}

theorem contains_iff :
    r.contains a = true ↔
      (r.low.row ≤ a.row ∧ a.row ≤ r.high.row) ∧
        (r.low.column ≤ a.column ∧ a.column ≤ r.high.column) := by
  simp only [contains, Bool.and_eq_true, decide_eq_true_eq, and_assoc]

theorem columns_pos : 0 < r.columns := by
  rw [columns]
  omega

/-- Within the range the coordinates of the cells do not wrap around. -/
theorem row_cellAt {i j : Nat} (hi : i < r.rows) :
    (r.cellAt i j).row.val = r.low.row.val + i := by
  have hhigh := r.high.row.isLt
  have hle := Fin.le_def.1 r.row_le
  rw [rows] at hi
  exact Nat.mod_eq_of_lt (by omega)

theorem column_cellAt {i j : Nat} (hj : j < r.columns) :
    (r.cellAt i j).column.val = r.low.column.val + j := by
  have hhigh := r.high.column.isLt
  have hle := Fin.le_def.1 r.column_le
  rw [columns] at hj
  exact Nat.mod_eq_of_lt (by omega)

theorem contains_cellAt {i j : Nat} (hi : i < r.rows) (hj : j < r.columns) :
    r.contains (r.cellAt i j) = true := by
  have hrow := Fin.le_def.1 r.row_le
  have hcolumn := Fin.le_def.1 r.column_le
  rw [contains_iff]
  simp only [Fin.le_def, row_cellAt hi, column_cellAt hj]
  rw [rows] at hi
  rw [columns] at hj
  omega

/-- A cell that lies in the range is in some row and some column of it. -/
theorem exists_cellAt (h : r.contains a = true) :
    ∃ i < r.rows, ∃ j < r.columns, r.cellAt i j = a := by
  rw [contains_iff] at h
  simp only [Fin.le_def] at h
  have hi : a.row.val - r.low.row.val < r.rows := by
    rw [rows]
    omega
  have hj : a.column.val - r.low.column.val < r.columns := by
    rw [columns]
    omega
  refine ⟨_, hi, _, hj, ?_⟩
  have hrow := row_cellAt (j := a.column.val - r.low.column.val) hi
  have hcolumn := column_cellAt (i := a.row.val - r.low.row.val) hj
  rw [Nat.add_sub_cancel' h.1.1] at hrow
  rw [Nat.add_sub_cancel' h.2.1] at hcolumn
  exact congrArg₂ Address.mk (Fin.ext hrow) (Fin.ext hcolumn)

/-- **The cells of a range** are those that lie in it. -/
theorem mem_cells_iff : a ∈ r.cells ↔ r.contains a = true := by
  rw [cells, List.mem_map]
  constructor
  · rintro ⟨index, hindex, rfl⟩
    rw [List.mem_range, size] at hindex
    exact contains_cellAt (Nat.div_lt_of_lt_mul (Nat.mul_comm .. ▸ hindex))
      (Nat.mod_lt _ columns_pos)
  · intro h
    obtain ⟨i, hi, j, hj, rfl⟩ := exists_cellAt h
    refine ⟨i * r.columns + j, ?_, ?_⟩
    · have := Nat.mul_le_mul_right r.columns (Nat.succ_le_of_lt hi)
      rw [Nat.succ_mul] at this
      rw [List.mem_range, size]
      omega
    · rw [cell, Nat.add_comm, Nat.add_mul_div_right _ _ columns_pos, Nat.add_mul_mod_self_right,
        Nat.div_eq_of_lt hj, Nat.mod_eq_of_lt hj, Nat.zero_add]

theorem contains_between_left : (between a b).contains a = true := by
  rw [contains_iff]
  simp only [between, Coord.smaller, Coord.larger, Fin.le_def]
  split <;> split <;> simp <;> omega

theorem contains_between_right : (between a b).contains b = true := by
  rw [contains_iff]
  simp only [between, Coord.smaller, Coord.larger, Fin.le_def]
  split <;> split <;> simp <;> omega

/-! ## Rows -/

/-- Whether a row belongs to the range. -/
def HasRow (r : Range) (row : Coord) : Prop :=
  r.low.row ≤ row ∧ row ≤ r.high.row

theorem rowCoords_eq_map_cellAt (r : Range) :
    r.rowCoords = (List.range r.rows).map fun i => (r.cellAt i 0).row := rfl

theorem mem_rowCoords_iff {row : Coord} : row ∈ r.rowCoords ↔ r.HasRow row := by
  simp only [rowCoords_eq_map_cellAt, List.mem_map, List.mem_range, HasRow, Fin.le_def]
  constructor
  · rintro ⟨i, hi, rfl⟩
    rw [row_cellAt hi]
    rw [rows] at hi
    have := Fin.le_def.1 r.row_le
    omega
  · rintro ⟨hlow, hhigh⟩
    have hi : row.val - r.low.row.val < r.rows := by
      rw [rows]
      omega
    refine ⟨_, hi, Fin.ext ?_⟩
    rw [row_cellAt hi]
    omega

/-- The rows of a range are listed from the first to the last. -/
theorem pairwise_rowCoords (r : Range) : r.rowCoords.Pairwise (· < ·) := by
  rw [rowCoords_eq_map_cellAt, List.pairwise_map]
  refine List.pairwise_lt_range.imp_of_mem fun {i j} hi hj hij => ?_
  rw [Fin.lt_def, row_cellAt (List.mem_range.1 hi), row_cellAt (List.mem_range.1 hj)]
  omega

theorem length_rowCells (r : Range) (row : Coord) : (r.rowCells row).length = r.columns := by
  rw [rowCells, List.length_map, List.length_range]

/-! ## Reading -/

theorem append_of_splitColon {text first last : List Char}
    (h : splitColon text = some (first, last)) : text = first ++ ':' :: last := by
  unfold splitColon at h
  split at h
  · cases h
  · rename_i c rest hrest
    cases h
    obtain rfl : c = ':' := by
      have := List.head?_dropWhile_not (· != ':') text
      simpa [hrest] using this
    rw [← hrest, List.takeWhile_append_dropWhile]

theorem exists_of_ofText? {text : List Char} (h : ofText? text = some r) :
    ∃ first last a b, text = first ++ ':' :: last ∧ Address.ofLabel? first = some a ∧
      Address.ofLabel? last = some b ∧ r = between a b := by
  obtain ⟨⟨first, last⟩, hsplit, hr⟩ := Option.bind_eq_some_iff.1 h
  obtain ⟨a, ha, hr⟩ := Option.bind_eq_some_iff.1 hr
  obtain ⟨b, hb, hr⟩ := Option.bind_eq_some_iff.1 hr
  exact ⟨first, last, a, b, append_of_splitColon hsplit, ha, hb, (Option.some.inj hr).symm⟩

end Spreadsheet.Range
