import Spreadsheet.Proofs.Address.Label
import Spreadsheet.Proofs.Range

/-!
# The cells of a range in their order

A range counts its cells row by row: the cell with the number `i * columns + j` stands in row `i`
and column `j` of the range, so division by the number of columns takes a number apart into the two.

* `Range.pairwise_cells`: a later number stands for a later cell, so no cell is listed twice.
* `Range.parse?_text`: the text of a range reads back.
* `Range.between_enumerates` puts together what the range between two cells lists.
-/

namespace Spreadsheet

/-- Row-major order: a cell in an earlier row, or in an earlier column of the same row. -/
def Address.Precedes (a b : Address) : Prop :=
  a.row < b.row ∨ a.row = b.row ∧ a.column < b.column

theorem Address.not_precedes_self (a : Address) : ¬a.Precedes a := by
  simp [Address.Precedes]

namespace Range

variable {r : Range} {a b : Address} {i j : Nat}

/-! ## Counting row by row -/

theorem rows_pos : 0 < r.rows := by
  rw [rows]
  omega

theorem size_pos : 0 < r.size :=
  Nat.mul_pos rows_pos columns_pos

theorem length_cells (r : Range) : r.cells.length = r.rows * r.columns := by
  rw [cells, List.length_map, List.length_range, size]

theorem div_lt_rows (hi : i < r.size) : i / r.columns < r.rows :=
  Nat.div_lt_of_lt_mul (Nat.mul_comm .. ▸ hi)

/-- The row of a cell from its number. -/
theorem row_cell (hi : i < r.size) : (r.cell i).row.val = r.low.row.val + i / r.columns :=
  row_cellAt (div_lt_rows hi)

theorem column_cell (r : Range) (i : Nat) :
    (r.cell i).column.val = r.low.column.val + i % r.columns :=
  column_cellAt (Nat.mod_lt _ columns_pos)

/-- Cells come in the order of their numbers. -/
theorem precedes_cell (hij : i < j) (hj : j < r.size) : (r.cell i).Precedes (r.cell j) := by
  have hi : i < r.size := Nat.lt_trans hij hj
  have hrow : i / r.columns ≤ j / r.columns := Nat.div_le_div_right (Nat.le_of_lt hij)
  simp only [Address.Precedes, Fin.lt_def, Fin.ext_iff, row_cell hi, row_cell hj, column_cell]
  rcases Nat.lt_or_eq_of_le hrow with hlt | heq
  · exact .inl (Nat.add_lt_add_left hlt _)
  · -- in one row the remainders are ordered as the numbers are
    have hmi := Nat.div_add_mod i r.columns
    have hmj := Nat.div_add_mod j r.columns
    rw [← heq] at hmj
    exact .inr ⟨by rw [heq], by omega⟩

theorem pairwise_cells (r : Range) : r.cells.Pairwise Address.Precedes := by
  rw [cells, List.pairwise_map]
  exact List.pairwise_lt_range.imp_of_mem fun _ hj hij => precedes_cell hij (List.mem_range.1 hj)

theorem nodup_cells (r : Range) : r.cells.Nodup := by
  refine r.pairwise_cells.imp fun {a b} hab => ?_
  rintro rfl
  exact a.not_precedes_self hab

theorem cell_zero (r : Range) : r.cell 0 = r.low := by
  rw [cell, cellAt, Nat.zero_div, Nat.zero_mod, Nat.add_zero, Nat.add_zero]
  simp

theorem cell_last (r : Range) : r.cell (r.size - 1) = r.high := by
  have hlast : r.size - 1 < r.size := Nat.sub_lt size_pos Nat.one_pos
  have hsize : r.size - 1 = (r.columns - 1) + (r.rows - 1) * r.columns := by
    have hrow := Nat.succ_mul (r.rows - 1) r.columns
    rw [Nat.succ_eq_add_one, Nat.sub_add_cancel rows_pos] at hrow
    have := @columns_pos r
    rw [size, hrow]
    omega
  have hcolumn : r.columns - 1 < r.columns := Nat.sub_lt columns_pos Nat.one_pos
  have hdiv : (r.size - 1) / r.columns = r.rows - 1 := by
    rw [hsize, Nat.add_mul_div_right _ _ columns_pos, Nat.div_eq_of_lt hcolumn, Nat.zero_add]
  have hmod : (r.size - 1) % r.columns = r.columns - 1 := by
    rw [hsize, Nat.add_mul_mod_self_right, Nat.mod_eq_of_lt hcolumn]
  have hrows := Fin.le_def.1 r.row_le
  have hcolumns := Fin.le_def.1 r.column_le
  have hrow : (r.cell (r.size - 1)).row = r.high.row := by
    rw [Fin.ext_iff, row_cell hlast, hdiv, rows]
    omega
  have hcol : (r.cell (r.size - 1)).column = r.high.column := by
    rw [Fin.ext_iff, column_cell, hmod, columns]
    omega
  exact congrArg₂ Address.mk hrow hcol

theorem head?_cells (r : Range) : r.cells.head? = some r.low := by
  rw [cells, List.head?_map, List.head?_range, if_neg (Nat.ne_of_gt size_pos), Option.map_some,
    cell_zero]

theorem getLast?_cells (r : Range) : r.cells.getLast? = some r.high := by
  rw [cells, List.getLast?_map, List.getLast?_range, if_neg (Nat.ne_of_gt size_pos),
    Option.map_some, cell_last]

/-! ## Corners -/

theorem val_smaller (c d : Coord) : (c.smaller d).val = min c.val d.val := by
  simp only [Coord.smaller, Fin.le_def]
  split <;> omega

theorem val_larger (c d : Coord) : (c.larger d).val = max c.val d.val := by
  simp only [Coord.larger, Fin.le_def]
  split <;> omega

/-- A range is what lies between its corners. -/
theorem between_low_high (r : Range) : between r.low r.high = r := by
  simp [between, Coord.smaller, Coord.larger, r.row_le, r.column_le]

/-! ## Reading and writing -/

/-- A label has no colon. -/
theorem ne_colon_of_ofLabel? {label : List Char} (h : Address.ofLabel? label = some a) :
    ∀ c ∈ label, (c != ':') = true := by
  obtain ⟨letters, digits, rfl, -, hdigits, hcolumn, -⟩ := Address.ofLabel?_eq_some_iff.1 h
  have hletters := (Column.ofLetters?_eq_some_iff.1 hcolumn).1
  rw [List.all_eq_true] at hletters hdigits
  intro c hc
  rw [bne_iff_ne]
  rintro rfl
  exact (List.mem_append.1 hc).elim (fun hc => absurd (hletters _ hc) (by decide))
    fun hc => absurd (hdigits _ hc) (by decide)

theorem splitColon_append {first last : List Char} (h : ∀ c ∈ first, (c != ':') = true) :
    splitColon (first ++ ':' :: last) = some (first, last) := by
  rw [splitColon, List.dropWhile_append_of_pos h, List.takeWhile_append_of_pos h]
  simp

/-- Two labels with a colon in between name the range between their cells. -/
theorem ofText?_append {first last : List Char} (ha : Address.ofLabel? first = some a)
    (hb : Address.ofLabel? last = some b) :
    ofText? (first ++ ':' :: last) = some (between a b) := by
  rw [ofText?, splitColon_append (ne_colon_of_ofLabel? ha)]
  simp [ha, hb]

theorem toList_text (r : Range) : r.text.toList = r.low.labelChars ++ ':' :: r.high.labelChars := by
  simp [text, Address.label]

/-- The text of a range reads back, unless a corner is on the last row or column. -/
theorem parse?_text (hrow : r.high.row.val + 1 < Coord.count)
    (hcolumn : r.high.column.val + 1 < Coord.count) : parse? r.text = some r := by
  have hrows := Fin.le_def.1 r.row_le
  have hcolumns := Fin.le_def.1 r.column_le
  have hlow : Address.ofLabel? r.low.labelChars = some r.low :=
    Address.ofLabel?_labelChars (by omega) (by omega)
  have hhigh := Address.ofLabel?_labelChars hrow hcolumn
  rw [parse?, toList_text, ofText?_append hlow hhigh, between_low_high]

/-! ## The range between two cells -/

/-- A range is spanned by two cells if its corners have the smaller and the larger coordinates. -/
structure IsSpannedBy (r : Range) (a b : Address) : Prop where
  low_row : r.low.row.val = min a.row.val b.row.val
  low_column : r.low.column.val = min a.column.val b.column.val
  high_row : r.high.row.val = max a.row.val b.row.val
  high_column : r.high.column.val = max a.column.val b.column.val

/-- A list enumerates a range if it holds the cells of the range row by row, each once, from the low
corner to the high one. -/
structure IsEnumeratedBy (r : Range) (cells : List Address) : Prop where
  mem_iff : ∀ c, c ∈ cells ↔ r.contains c = true
  nodup : cells.Nodup
  ordered : cells.Pairwise Address.Precedes
  head : cells.head? = some r.low
  last : cells.getLast? = some r.high
  length : cells.length = r.rows * r.columns

/-- A range is measured in 64-bit words: no difference of its coordinates is negative, the numbers
of rows and of columns fit a word, and their product is counted if it does. -/
structure IsMeasuredInWords (r : Range) : Prop where
  row_le : r.low.row.val ≤ r.high.row.val
  column_le : r.low.column.val ≤ r.high.column.val
  rows_le : r.rows ≤ 2 ^ 64 - 1
  columns_le : r.columns ≤ 2 ^ 64 - 1
  count_of_le : r.rows * r.columns ≤ 2 ^ 64 - 1 → r.count? = some (r.rows * r.columns)
  count_of_lt : 2 ^ 64 - 1 < r.rows * r.columns → r.count? = none

theorem isSpannedBy_between (a b : Address) : IsSpannedBy (between a b) a b where
  low_row := val_smaller ..
  low_column := val_smaller ..
  high_row := val_larger ..
  high_column := val_larger ..

theorem isEnumeratedBy_cells (r : Range) : r.IsEnumeratedBy r.cells where
  mem_iff _ := mem_cells_iff
  nodup := r.nodup_cells
  ordered := r.pairwise_cells
  head := r.head?_cells
  last := r.getLast?_cells
  length := r.length_cells

theorem isMeasuredInWords (hrow : r.high.row.val + 1 < Coord.count)
    (hcolumn : r.high.column.val + 1 < Coord.count) : r.IsMeasuredInWords where
  row_le := r.row_le
  column_le := r.column_le
  rows_le := by
    rw [rows]
    rw [Coord.count] at hrow
    omega
  columns_le := by
    rw [columns]
    rw [Coord.count] at hcolumn
    omega
  count_of_le h := by
    rw [count?, size, if_pos]
    exact Nat.lt_of_le_of_lt h (by decide)
  count_of_lt h := by
    rw [count?, size, if_neg]
    exact Nat.not_lt.2 (Nat.le_of_pred_lt h)

/-- **The range between two cells** in any order has the smaller coordinates at its low corner and
the larger ones at its high corner. Its cells are those that it contains, each once and row by row
from the low corner to the high one. All that is computed to count them fits a 64-bit word, and its
text reads back. -/
theorem between_enumerates (harow : a.row.val ≤ 2 ^ 64 - 2) (hacolumn : a.column.val ≤ 2 ^ 64 - 2)
    (hbrow : b.row.val ≤ 2 ^ 64 - 2) (hbcolumn : b.column.val ≤ 2 ^ 64 - 2) :
    IsSpannedBy (between a b) a b ∧ IsEnumeratedBy (between a b) (between a b).cells ∧
      IsMeasuredInWords (between a b) ∧ parse? (between a b).text = some (between a b) := by
  have hspan := isSpannedBy_between a b
  have hrow : (between a b).high.row.val + 1 < Coord.count := by
    rw [hspan.high_row, Coord.count]
    omega
  have hcolumn : (between a b).high.column.val + 1 < Coord.count := by
    rw [hspan.high_column, Coord.count]
    omega
  exact ⟨hspan, isEnumeratedBy_cells _, isMeasuredInWords hrow hcolumn, parse?_text hrow hcolumn⟩

/-- The range between the last row of the first column and the last column of the first row has too
many cells to be counted in a word. -/
theorem between_enumerates_far_corners :
    let a : Address := ⟨18446744073709551614, 0⟩
    let b : Address := ⟨0, 18446744073709551614⟩
    (a.row.val ≤ 2 ^ 64 - 2 ∧ a.column.val ≤ 2 ^ 64 - 2 ∧ b.row.val ≤ 2 ^ 64 - 2 ∧
        b.column.val ≤ 2 ^ 64 - 2) ∧
      (between a b).cells.head? = some ⟨0, 0⟩ ∧
      (between a b).cells.getLast? = some ⟨18446744073709551614, 18446744073709551614⟩ ∧
      (between a b).count? = none ∧ parse? (between a b).text = some (between a b) := by
  intro a b
  have hbounds : a.row.val ≤ 2 ^ 64 - 2 ∧ a.column.val ≤ 2 ^ 64 - 2 ∧ b.row.val ≤ 2 ^ 64 - 2 ∧
      b.column.val ≤ 2 ^ 64 - 2 := by decide
  obtain ⟨-, hcells, hwords, htext⟩ :=
    between_enumerates hbounds.1 hbounds.2.1 hbounds.2.2.1 hbounds.2.2.2
  exact ⟨hbounds, hcells.head, hcells.last, hwords.count_of_lt (by decide), htext⟩

end Range

end Spreadsheet
