import Spreadsheet.Proofs.Sheet.InsertDelete

/-!
# Where the cells go when a line is inserted or deleted

* `Sheet.LineInserted` and `Sheet.LineDeleted` describe the sheet after the two edits line by line:
  its cells, how many of them are lost, and its sizes.
* `Sheet.lines_shift` says that this is what the edits do, and that along every history both axes
  keep as many sizes as the configuration has lines.

A cell that moves takes its entry and its style along (`Grid.Carries`). Its value stays as well,
unless it has a formula, which is recomputed at the new place.
-/

namespace Spreadsheet

/-! ## Cells that move -/

namespace Axis

variable {axis : Axis} {i j k : Coord} {a : Address}

theorem makeRoom_before (hk : k < i) :
    axis.makeRoom i (axis.withCoord a k) = some (axis.withCoord a k) :=
  makeRoom_eq_some_iff.2 (.inl ⟨by rwa [coord_withCoord], rfl⟩)

theorem makeRoom_behind (hij : i ≤ j) (hjk : k.val = j.val + 1) :
    axis.makeRoom i (axis.withCoord a j) = some (axis.withCoord a k) := by
  refine makeRoom_eq_some_iff.2 (.inr ?_)
  rw [coord_withCoord, coord_withCoord, withCoord_withCoord]
  exact ⟨hij, hjk, rfl⟩

/-- Nothing comes to the line for which room is made. -/
theorem makeRoom_ne_line (b : Address) : axis.makeRoom i b ≠ some (axis.withCoord a i) := by
  intro h
  rcases makeRoom_eq_some_iff.1 h with ⟨hlt, rfl⟩ | ⟨hle, hnext, -⟩
  · rw [coord_withCoord] at hlt
    exact absurd hlt (Fin.lt_irrefl i)
  · rw [coord_withCoord] at hnext
    have := Fin.le_def.1 hle
    omega

/-- Only the last line of the axis has nowhere to go when room is made. -/
theorem isNone_makeRoom (axis : Axis) (i : Coord) (a : Address) :
    (axis.makeRoom i a).isNone = decide ((axis.coord a).val + 1 = Coord.count) := by
  by_cases hlast : (axis.coord a).val + 1 < Coord.count
  · obtain ⟨k, hk⟩ := exists_makeRoom (i := i) hlast
    simp [hk, Nat.ne_of_lt hlast]
  · have hlt : (axis.coord a).val < Coord.count := (axis.coord a).isLt
    rw [decide_eq_true (by omega), Option.isNone_iff_eq_none, Option.eq_none_iff_forall_ne_some]
    exact fun k hk => hlast (coord_lt_of_makeRoom hk)

theorem closeUp_before (hk : k < i) :
    axis.closeUp i (axis.withCoord a k) = some (axis.withCoord a k) :=
  closeUp_eq_some_iff_makeRoom.2 (makeRoom_before hk)

theorem closeUp_behind (hik : i ≤ k) (hjk : j.val = k.val + 1) :
    axis.closeUp i (axis.withCoord a j) = some (axis.withCoord a k) :=
  closeUp_eq_some_iff_makeRoom.2 (makeRoom_behind hik hjk)

/-- Nothing comes to the last line of the axis when a line is closed up. -/
theorem closeUp_ne_last (hk : k.val + 1 = Coord.count) (b : Address) :
    axis.closeUp i b ≠ some (axis.withCoord a k) := by
  intro h
  have := coord_lt_of_makeRoom (closeUp_eq_some_iff_makeRoom.1 h)
  rw [coord_withCoord] at this
  omega

/-- Only the line that is closed up has nowhere to go. -/
theorem isNone_closeUp (axis : Axis) (i : Coord) (a : Address) :
    (axis.closeUp i a).isNone = decide (axis.coord a = i) := by
  rw [closeUp]
  split
  · rename_i hlt
    simp [Fin.ne_of_lt hlt]
  · rename_i hlt
    split
    · rename_i heq
      simp [heq]
    · rename_i hne
      have hpos : (axis.coord a).val ≠ 0 := fun h0 => by
        rw [Fin.lt_def] at hlt
        exact hne (Fin.ext (by omega))
      obtain ⟨n, hn⟩ := Nat.exists_eq_succ_of_ne_zero hpos
      have hn' : n < 18446744073709551616 := by have := (axis.coord a).isLt; omega
      simp [Coord.previous?, hn, Coord.ofNat?, hn', hne]

end Axis

namespace Grid

variable {registry : Registry} {g : Grid} {axis : Axis} {i j k : Coord} {a b : Address}

/-- One place holds what another one held before, but for the value of a formula. -/
structure Carries (old new : Option Cell) : Prop where
  entry : new.map Cell.uncomputed = old.map Cell.uncomputed
  literal : old.bind Cell.formula = none → new = old

theorem carries_recalculate (registry : Registry) (g : Grid) (a : Address) :
    Carries g[a]? (g.recalculate registry)[a]? where
  entry := (SameEntries.refl g).recalculate a
  literal hf := getElem?_recalculate hf

theorem Carries.congr {old old' new : Option Cell} (h : Carries old new) (heq : old = old') :
    Carries old' new :=
  heq ▸ h

/-! ## Moving and recalculating -/

variable {move : Address → Option Address}

/-- A cell that is moved is carried to its new place. -/
theorem carries_recalculate_relocate
    (hinj : ∀ a b k, move a = some k → move b = some k → a = b) (h : move a = some b) :
    Carries g[a]? ((g.relocate move).recalculate registry)[b]? :=
  (carries_recalculate registry _ b).congr (getElem?_relocate_of_eq_some hinj h)

/-- A place that nothing is moved to is empty. -/
theorem getElem?_recalculate_relocate_of_ne
    (hinj : ∀ a b k, move a = some k → move b = some k → a = b) (h : ∀ a, move a ≠ some b) :
    ((g.relocate move).recalculate registry)[b]? = none := by
  have hnone := getElem?_relocate_of_ne (g := g) hinj h
  rw [getElem?_recalculate (by rw [formula?, hnone]; rfl), hnone]

end Grid

/-! ## The sheet line by line -/

namespace Sheet

variable {s : Sheet} {axis : Axis} {i : Coord}

/-- The second sheet is the first one with an empty line inserted before index `i` of an axis. What
was at an index before `i` is still there, and what was at another one is at the next; what was on
the last line that there can be is lost. The sizes follow, as far as the sheet has lines. -/
structure LineInserted (axis : Axis) (i : Coord) (s t : Sheet) : Prop where
  before (a : Address) (k : Coord) (hk : k < i) :
    Grid.Carries s.grid[axis.withCoord a k]? t.grid[axis.withCoord a k]?
  line (a : Address) : t.grid[axis.withCoord a i]? = none
  behind (a : Address) (j k : Coord) (hij : i ≤ j) (hjk : k.val = j.val + 1) :
    Grid.Carries s.grid[axis.withCoord a j]? t.grid[axis.withCoord a k]?
  lost : t.grid.size +
    (s.grid.keys.filter fun a => (axis.coord a).val + 1 = Coord.count).length = s.grid.size
  sizes (k : Nat) (hi : i.val < (s.sizes axis).slots.length)
    (hk : k < (s.sizes axis).slots.length) : (t.sizes axis).get? k =
      if k < i.val then (s.sizes axis).get? k
      else if k = i.val then some (s.sizes axis).standard else (s.sizes axis).get? (k - 1)
  beyond (hi : (s.sizes axis).slots.length ≤ i.val) : t.sizes axis = s.sizes axis
  other (b : Axis) (hb : b ≠ axis) : t.sizes b = s.sizes b

/-- The second sheet is the first one with the line at index `i` of an axis deleted. What was at an
index before `i` is still there, and what was at one behind it is at the one before; what was on the
line itself is lost. The sizes follow, and the last line gets the standard size. -/
structure LineDeleted (axis : Axis) (i : Coord) (s t : Sheet) : Prop where
  before (a : Address) (k : Coord) (hk : k < i) :
    Grid.Carries s.grid[axis.withCoord a k]? t.grid[axis.withCoord a k]?
  behind (a : Address) (j k : Coord) (hik : i ≤ k) (hjk : j.val = k.val + 1) :
    Grid.Carries s.grid[axis.withCoord a j]? t.grid[axis.withCoord a k]?
  last (a : Address) (k : Coord) (hk : k.val + 1 = Coord.count) :
    t.grid[axis.withCoord a k]? = none
  lost : t.grid.size + (s.grid.keys.filter fun a => axis.coord a = i).length = s.grid.size
  sizes (k : Nat) (hi : i.val < (s.sizes axis).slots.length)
    (hk : k < (s.sizes axis).slots.length) : (t.sizes axis).get? k =
      if k < i.val then (s.sizes axis).get? k
      else if k + 1 = (s.sizes axis).slots.length then some (s.sizes axis).standard
      else (s.sizes axis).get? (k + 1)
  beyond (hi : (s.sizes axis).slots.length ≤ i.val) : t.sizes axis = s.sizes axis
  other (b : Axis) (hb : b ≠ axis) : t.sizes b = s.sizes b

theorem grid_insertLine (s : Sheet) (axis : Axis) (i : Coord) :
    (s.insertLine axis i).grid = (s.grid.relocate (axis.makeRoom i)).recalculate s.registry := by
  cases axis <;> rfl

theorem grid_deleteLine (s : Sheet) (axis : Axis) (i : Coord) :
    (s.deleteLine axis i).grid = (s.grid.relocate (axis.closeUp i)).recalculate s.registry := by
  cases axis <;> rfl

theorem lineInserted_insertLine (s : Sheet) (axis : Axis) (i : Coord) :
    LineInserted axis i s (s.insertLine axis i) where
  before a k hk := by
    rw [grid_insertLine]
    exact Grid.carries_recalculate_relocate Axis.makeRoom_injective (Axis.makeRoom_before hk)
  line a := by
    rw [grid_insertLine]
    exact Grid.getElem?_recalculate_relocate_of_ne Axis.makeRoom_injective Axis.makeRoom_ne_line
  behind a j k hij hjk := by
    rw [grid_insertLine]
    exact Grid.carries_recalculate_relocate Axis.makeRoom_injective (Axis.makeRoom_behind hij hjk)
  lost := by
    have hsize := s.grid.size_relocate (@Axis.makeRoom_injective axis i)
    simp only [Axis.isNone_makeRoom] at hsize
    rw [grid_insertLine, Grid.size_recalculate, hsize]
  sizes k hi hk := by rw [sizes_insertLine_self, Sizes.get?_insert hi hk]
  beyond hi := by rw [sizes_insertLine_self, Sizes.insert_of_length_le hi]
  other b hb := sizes_insertLine_of_ne hb

theorem lineDeleted_deleteLine (s : Sheet) (axis : Axis) (i : Coord) :
    LineDeleted axis i s (s.deleteLine axis i) where
  before a k hk := by
    rw [grid_deleteLine]
    exact Grid.carries_recalculate_relocate Axis.closeUp_injective (Axis.closeUp_before hk)
  behind a j k hik hjk := by
    rw [grid_deleteLine]
    exact Grid.carries_recalculate_relocate Axis.closeUp_injective (Axis.closeUp_behind hik hjk)
  last a k hk := by
    rw [grid_deleteLine]
    exact Grid.getElem?_recalculate_relocate_of_ne Axis.closeUp_injective (Axis.closeUp_ne_last hk)
  lost := by
    have hsize := s.grid.size_relocate (@Axis.closeUp_injective axis i)
    simp only [Axis.isNone_closeUp] at hsize
    rw [grid_deleteLine, Grid.size_recalculate, hsize]
  sizes k hi hk := by rw [sizes_deleteLine_self, Sizes.get?_delete hi hk]
  beyond hi := by rw [sizes_deleteLine_self, Sizes.delete_of_length_le hi]
  other b hb := sizes_deleteLine_of_ne hb

/-- **Lines move without loss or duplication.** An insertion moves what stands at or behind the
index on by one and loses the cells on the last line that there can be, a deletion moves what stands
behind the index back by one and loses the cells on the line itself, and no others. The sizes of the
axis follow the lines, those of the other axis stay. Along every history from a new sheet both axes
have exactly as many sizes as the configuration has lines, and the standard size is the configured
one. -/
theorem lines_shift (s : Sheet) (axis : Axis) (i : Coord) :
    LineInserted axis i s (s.insertLine axis i) ∧ LineDeleted axis i s (s.deleteLine axis i) ∧
    ∀ (config : Config) (registry : Registry) (start : Sheet) (history : List Edit),
      Sheet.new config registry = .ok start → (start.run history).FitsConfig :=
  ⟨lineInserted_insertLine s axis i, lineDeleted_deleteLine s axis i,
    fun _ _ _ _ hstart => fitsConfig_run hstart⟩

/-- The cell in the last row that has a number is pushed on to the last row of the axis, and then
off the sheet. -/
example :
    let s := (Sheet.blank {} .builtin).run
      [.setText "A18446744073709551615" "end", .setText "B2" "=B1", .insert .row 0]
    s.grid.keys = [⟨2, 1⟩, ⟨18446744073709551615, 0⟩] ∧
      (s.insertLine .row 0).grid.keys = [⟨3, 1⟩] := by
  decide +kernel

end Sheet

end Spreadsheet
