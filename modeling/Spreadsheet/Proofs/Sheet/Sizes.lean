import Spreadsheet.Proofs.Sheet.Effect

/-!
# Sizes follow their lines

* `Sizes.get?_insert` and `Sizes.get?_delete` say where every size goes when a line is inserted or
  deleted, `Sizes.get?_delete_insert` what is left of an insertion that is taken back.
* `Sheet.fitsConfig_run`: along every history both axes keep as many sizes as the configuration has
  lines, and new lines get the configured size.
-/

namespace Spreadsheet

namespace Sizes

variable {s : Sizes} {i k : Nat}

@[simp] theorem standard_set (s : Sizes) (i : Nat) (size : UInt32) :
    (s.set i size).standard = s.standard := rfl

@[simp] theorem standard_insert (s : Sizes) (i : Nat) : (s.insert i).standard = s.standard := by
  unfold insert
  split <;> rfl

@[simp] theorem standard_delete (s : Sizes) (i : Nat) : (s.delete i).standard = s.standard := by
  unfold delete
  split <;> rfl

@[simp] theorem length_set (s : Sizes) (i : Nat) (size : UInt32) :
    (s.set i size).slots.length = s.slots.length :=
  List.length_set

@[simp] theorem length_insert (s : Sizes) (i : Nat) :
    (s.insert i).slots.length = s.slots.length := by
  unfold insert
  split
  · rename_i hi
    rw [List.length_dropLast, List.length_insertIdx_of_le_length (Nat.le_of_lt hi)]
    rfl
  · rfl

@[simp] theorem length_delete (s : Sizes) (i : Nat) :
    (s.delete i).slots.length = s.slots.length := by
  unfold delete
  split
  · rename_i hi
    rw [List.length_append, List.length_eraseIdx_of_lt hi, List.length_singleton]
    omega
  · rfl

/-- A line beyond the axis is not inserted. -/
theorem insert_of_length_le (hi : s.slots.length ≤ i) : s.insert i = s :=
  if_neg (Nat.not_lt.2 hi)

theorem delete_of_length_le (hi : s.slots.length ≤ i) : s.delete i = s :=
  if_neg (Nat.not_lt.2 hi)

/-- The sizes after a line is inserted. -/
theorem get?_insert (hi : i < s.slots.length) (hk : k < s.slots.length) :
    (s.insert i).get? k =
      if k < i then s.get? k else if k = i then some s.standard else s.get? (k - 1) := by
  rw [insert, if_pos hi, get?, List.getElem?_dropLast,
    List.length_insertIdx_of_le_length (Nat.le_of_lt hi), Nat.add_sub_cancel, if_pos hk,
    List.getElem?_insertIdx]
  split
  · rfl
  · split
    · rw [if_pos (Nat.le_of_lt hk)]
    · rfl

/-- The sizes after a line is deleted. -/
theorem get?_delete (hi : i < s.slots.length) (hk : k < s.slots.length) :
    (s.delete i).get? k =
      if k < i then s.get? k
      else if k + 1 = s.slots.length then some s.standard else s.get? (k + 1) := by
  rw [delete, if_pos hi, get?, List.getElem?_append, List.length_eraseIdx_of_lt hi,
    List.getElem?_eraseIdx]
  simp only [get?]
  split
  · rename_i hlast
    rw [if_neg (show ¬k + 1 = s.slots.length by omega)]
  · rename_i hlast
    obtain rfl : k = s.slots.length - 1 := by omega
    rw [if_neg (show ¬s.slots.length - 1 < i by omega), if_pos (by omega), Nat.sub_self]
    rfl

theorem get?_eq_none (hk : s.slots.length ≤ k) : s.get? k = none :=
  List.getElem?_eq_none hk

/-- An insertion that is taken back costs the last size. -/
theorem get?_delete_insert (s : Sizes) (i k : Nat) :
    ((s.insert i).delete i).get? k =
      if i < s.slots.length ∧ k + 1 = s.slots.length then some s.standard else s.get? k := by
  rcases Nat.lt_or_ge i s.slots.length with hi | hi
  · rcases Nat.lt_or_ge k s.slots.length with hk | hk
    · rw [get?_delete (by simpa using hi) (by simpa using hk), length_insert, standard_insert]
      by_cases hki : k < i
      · rw [if_pos hki, get?_insert hi hk, if_pos hki, if_neg (by omega)]
      · by_cases hlast : k + 1 = s.slots.length
        · rw [if_neg hki, if_pos hlast, if_pos ⟨hi, hlast⟩]
        · rw [if_neg hki, if_neg hlast, get?_insert hi (by omega), if_neg (by omega),
            if_neg (by omega), if_neg (by omega), Nat.add_sub_cancel]
    · rw [get?_eq_none (by simpa using hk), get?_eq_none hk, if_neg (by omega)]
  · rw [insert_of_length_le hi, delete_of_length_le hi, if_neg (by omega)]

end Sizes

/-! ## The sizes of a sheet -/

/-- The number of lines of an axis. -/
def Config.lineCount (c : Config) : Axis → Nat
  | .row => c.rows
  | .column => c.columns

/-- The size of new lines of an axis. -/
def Config.defaultSize (c : Config) : Axis → UInt32
  | .row => c.defaultRowHeight
  | .column => c.defaultColumnWidth

namespace Sheet

variable {registry : Registry} {s s' : Sheet} {axis other : Axis} {sizes : Sizes} {i : Coord}

@[simp] theorem config_withSizes : (s.withSizes axis sizes).config = s.config := by
  cases axis <;> rfl

@[simp] theorem config_insertLine : (s.insertLine axis i).config = s.config := by
  cases axis <;> rfl

@[simp] theorem config_deleteLine : (s.deleteLine axis i).config = s.config := by
  cases axis <;> rfl

theorem sizes_withSizes_self : (s.withSizes axis sizes).sizes axis = sizes := by
  cases axis <;> rfl

theorem sizes_withSizes_of_ne (h : other ≠ axis) :
    (s.withSizes axis sizes).sizes other = s.sizes other := by
  cases axis <;> cases other <;> simp_all [withSizes, Sheet.sizes]

theorem sizes_insertLine_self :
    (s.insertLine axis i).sizes axis = (s.sizes axis).insert i.val :=
  sizes_withSizes_self

theorem sizes_insertLine_of_ne (h : other ≠ axis) :
    (s.insertLine axis i).sizes other = s.sizes other :=
  sizes_withSizes_of_ne h

theorem sizes_deleteLine_self :
    (s.deleteLine axis i).sizes axis = (s.sizes axis).delete i.val :=
  sizes_withSizes_self

theorem sizes_deleteLine_of_ne (h : other ≠ axis) :
    (s.deleteLine axis i).sizes other = s.sizes other :=
  sizes_withSizes_of_ne h

/-- Both axes have as many sizes as the configuration has lines, and new lines get the configured
size. -/
def FitsConfig (s : Sheet) : Prop :=
  ∀ axis, (s.sizes axis).slots.length = s.config.lineCount axis ∧
    (s.sizes axis).standard = s.config.defaultSize axis

theorem fitsConfig_of_new {config : Config} (h : Sheet.new config registry = .ok s) :
    s.FitsConfig := by
  obtain ⟨_, -, rfl⟩ := Except.map_eq_ok_iff.1 h
  rintro (_ | _) <;> exact ⟨List.length_replicate, rfl⟩

namespace FitsConfig

/-- An edit of the sizes of one axis that keeps their number. -/
theorem of_axis (h : s.FitsConfig) (hconfig : s'.config = s.config)
    (hsizes : s'.sizes axis = sizes)
    (hlength : sizes.slots.length = (s.sizes axis).slots.length)
    (hstandard : sizes.standard = (s.sizes axis).standard)
    (hother : ∀ other, other ≠ axis → s'.sizes other = s.sizes other) : s'.FitsConfig := by
  intro other
  rw [hconfig]
  by_cases heq : other = axis
  · subst heq
    rw [hsizes, hlength, hstandard]
    exact h other
  · rw [hother other heq]
    exact h other

theorem effect {e : Edit} (h : s.FitsConfig) (heffect : e.Effect s s') : s'.FitsConfig := by
  cases heffect with
  | insert =>
    exact h.of_axis config_insertLine sizes_insertLine_self (Sizes.length_insert _ _)
      (Sizes.standard_insert _ _) fun _ => sizes_insertLine_of_ne
  | delete =>
    exact h.of_axis config_deleteLine sizes_deleteLine_self (Sizes.length_delete _ _)
      (Sizes.standard_delete _ _) fun _ => sizes_deleteLine_of_ne
  | setSize =>
    exact h.of_axis config_withSizes sizes_withSizes_self (Sizes.length_set _ _ _)
      (Sizes.standard_set _ _ _) fun _ => sizes_withSizes_of_ne
  | clear =>
    rw [Sheet.erase]
    split <;> exact h
  | _ => exact h

end FitsConfig

/-- **The sizes fit the configuration** after every history of edits. -/
theorem fitsConfig_run {config : Config} {history : List Edit}
    (hs : Sheet.new config registry = .ok s) : (s.run history).FitsConfig :=
  run_induction (fitsConfig_of_new hs) fun _ h _ _ _ heffect => h.effect heffect

end Sheet

end Spreadsheet
