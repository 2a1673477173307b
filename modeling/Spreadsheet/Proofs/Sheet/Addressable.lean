import Spreadsheet.Proofs.Address.Label
import Spreadsheet.Proofs.Sheet.Duplicates
import Spreadsheet.Proofs.Sheet.Lines
import Spreadsheet.Proofs.Sheet.Replacement

/-!
# Cells that labels reach

The one-based numbers of the last row and of the last column fit no word, and labels are read by such
numbers. What is written for a cell there is not read back, so the cell can be stored but neither read
nor overwritten nor cleared. A label leads only to other cells, but an insertion can push a cell to
the last line of an axis, and a paste can take one there.

* `Address.hasLabel_iff`: the addresses that have a label are those before both last lines. They are
  those for which the label that is written reads back (`Address.hasLabel_iff_ofText_label`).
* `Sheet.Serves` says what a label does for a cell, and `Sheet.IsAddressable` that every stored cell
  has one.
* `Edit.MovesTo` says where insertions and pastes take cells. What else is stored after an edit was
  stored before, comes back from further down or was named (`Sheet.movesTo_or_hasLabel`).
* `Sheet.isAddressable_run_iff`: along a history all cells stay addressable exactly if none is moved
  to a last line.
-/

namespace Spreadsheet

variable {a b k : Address} {registry : Registry}

/-! ## Addresses with labels -/

namespace Address

/-- Some label names the address. -/
def HasLabel (a : Address) : Prop :=
  ∃ label, ofText label = .ok a

/-- The label of an address that is not on the last row or column is read back. -/
theorem ofText_label (h : ∀ axis : Axis, (axis.coord a).val + 1 < Coord.count) :
    ofText a.label = .ok a := by
  rw [ofText_eq_ok_iff, label, String.toList_ofList]
  exact ofLabel?_labelChars (h .row) (h .column)

/-- The addresses without a label are those on the last row or column. -/
theorem hasLabel_iff : a.HasLabel ↔ ∀ axis : Axis, (axis.coord a).val + 1 < Coord.count := by
  constructor
  · rintro ⟨label, hlabel⟩ axis
    obtain ⟨hrow, hcolumn⟩ := add_one_lt_count (ofText_eq_ok_iff.1 hlabel)
    cases axis with
    | row => exact hrow
    | column => exact hcolumn
  · exact fun h => ⟨a.label, ofText_label h⟩

/-- An address has a label if the one that is written for it is read back, and only then. -/
theorem hasLabel_iff_ofText_label : a.HasLabel ↔ ofText a.label = .ok a :=
  ⟨fun h => ofText_label (hasLabel_iff.1 h), fun h => ⟨a.label, h⟩⟩

/-- The last row is written with the number zero. -/
example : Address.label ⟨18446744073709551615, 0⟩ = "A0" := by decide +kernel

end Address

/-! ## Which cells are stored -/

namespace Grid

variable {g h : Grid} {move : Address → Option Address} {sources : List Address} {text : String}
  {cells : List (Address × Cell)}

theorem mem_propagate : a ∈ g.propagate registry sources ↔ a ∈ g :=
  (SameEntries.refl g).propagate.mem_iff

theorem mem_recalculate : a ∈ g.recalculate registry ↔ a ∈ g :=
  (SameEntries.refl g).recalculate.mem_iff

theorem mem_relocate_iff (hinj : ∀ a b k, move a = some k → move b = some k → a = b) :
    k ∈ g.relocate move ↔ ∃ a ∈ g, move a = some k := by
  simp only [mem_iff_exists, getElem?_relocate g hinj]
  exact ⟨fun ⟨c, a, hk, hc⟩ => ⟨a, ⟨c, hc⟩, hk⟩, fun ⟨a, ⟨c, hc⟩, hk⟩ => ⟨c, a, hk, hc⟩⟩

theorem mem_of_mem_restrict {p : Address → Bool} (ha : a ∈ g.restrict p) : a ∈ g :=
  (mem_keys_restrict.1 (Std.ExtTreeMap.mem_keys.2 ha)).2

theorem mem_enterText_iff : b ∈ g.enterText registry a text ↔ b = a ∨ b ∈ g := by
  unfold enterText setValue
  rw [Std.ExtTreeMap.mem_modify, Std.ExtTreeMap.mem_insert, Std.compare_eq_iff_eq, eq_comm]

theorem mem_overwrite_iff : k ∈ g.overwrite cells ↔ k ∈ cells.map Prod.fst ∨ k ∈ g := by
  induction cells generalizing g with
  | nil => simp [overwrite]
  | cons entry cells ih =>
    rw [overwrite, List.foldl_cons, ← overwrite, ih, Std.ExtTreeMap.mem_insert,
      Std.compare_eq_iff_eq, List.map_cons, List.mem_cons, eq_comm (a := entry.1), or_assoc,
      or_left_comm]

theorem mem_foldl_markCircular {graph : Graph} {places : List Address} :
    k ∈ places.foldl (markCircular graph) g ↔ k ∈ g := by
  induction places generalizing g with
  | nil => rfl
  | cons a places ih =>
    rw [List.foldl_cons, ih, markCircular_eq_modify, Std.ExtTreeMap.mem_modify]

theorem mem_withBlock_iff : k ∈ g.withBlock cells ↔ k ∈ cells.map Prod.fst ∨ k ∈ g :=
  mem_foldl_markCircular.trans mem_overwrite_iff

theorem raw_enterText_self : (g.enterText registry a text).raw a = text := by
  rw [raw, enterText, getElem?_setValue, if_pos rfl, Std.ExtTreeMap.getElem?_insert_self]
  rfl

theorem raw_getD (g : Grid) (a : Address) : (g.getD a {}).raw = g.raw a := by
  rw [raw, Std.ExtTreeMap.getD_eq_getD_getElem?]
  cases g[a]? <;> rfl

end Grid

/-! ## What a label does for a cell -/

namespace Sheet

variable {s : Sheet} {label text : String}

/-- The label names the address, and what is stored there can be read, overwritten and cleared
through it. -/
structure Serves (s : Sheet) (label : String) (a : Address) : Prop where
  named : Address.ofText label = .ok a
  read (c : Cell) (hc : s.grid[a]? = some c) : s.cell label = .ok c
  overwritten (text : String) :
    ∃ t, s.setText label text = .ok t ∧ (t.cell label).map Cell.raw = .ok text
  cleared (ha : a ∈ s.grid) : ∃ t, s.clear label = .ok (true, t) ∧ a ∉ t.grid

/-- Every stored cell can be read, overwritten and cleared through a label. -/
def IsAddressable (s : Sheet) : Prop :=
  ∀ a ∈ s.grid, ∃ label, s.Serves label a

theorem mem_enter_iff : b ∈ (s.enter a text).grid ↔ b = a ∨ b ∈ s.grid :=
  Grid.mem_propagate.trans Grid.mem_enterText_iff

theorem mem_restyle_iff {patch : StylePatch} :
    b ∈ (s.restyle a patch).grid ↔ b = a ∨ b ∈ s.grid := by
  simp only [restyle]
  rw [Std.ExtTreeMap.mem_insert, Std.compare_eq_iff_eq, eq_comm]

theorem mem_erase_iff : b ∈ (s.erase a).grid ↔ b ≠ a ∧ b ∈ s.grid := by
  rw [erase]
  split
  · refine Grid.mem_propagate.trans ?_
    rw [Std.ExtTreeMap.mem_erase, Ne, Std.compare_eq_iff_eq, eq_comm]
  · rename_i ha
    rw [Std.ExtTreeMap.contains_iff_mem] at ha
    refine (and_iff_right_of_imp ?_).symm
    rintro hb rfl
    exact ha hb

theorem mem_place_iff {cells : List (Address × Cell)} :
    k ∈ (s.place cells).grid ↔ k ∈ cells.map Prod.fst ∨ k ∈ s.grid :=
  Grid.mem_propagate.trans Grid.mem_withBlock_iff

theorem mem_insertLine_iff {axis : Axis} {i : Coord} :
    k ∈ (s.insertLine axis i).grid ↔ ∃ a ∈ s.grid, axis.makeRoom i a = some k := by
  rw [grid_insertLine, Grid.mem_recalculate, Grid.mem_relocate_iff Axis.makeRoom_injective]

theorem mem_deleteLine_iff {axis : Axis} {i : Coord} :
    k ∈ (s.deleteLine axis i).grid ↔ ∃ a ∈ s.grid, axis.closeUp i a = some k := by
  rw [grid_deleteLine, Grid.mem_recalculate, Grid.mem_relocate_iff Axis.closeUp_injective]

theorem serves_of_ofText (h : Address.ofText label = .ok a) : s.Serves label a := by
  have hcell (s : Sheet) : s.cell label = .ok (s.grid.getD a {}) := by
    rw [cell, h]
    rfl
  refine ⟨h, fun c hc => ?_, fun text => ⟨s.enter a text, ?_, ?_⟩, fun ha => ⟨s.erase a, ?_, ?_⟩⟩
  · rw [hcell, Std.ExtTreeMap.getD_eq_getD_getElem?, hc, Option.getD_some]
  · rw [setText, h]
    rfl
  · have hsame : (s.enter a text).grid.SameEntries (s.grid.enterText s.registry a text) :=
      (Grid.SameEntries.refl _).propagate
    rw [hcell, Except.map, Grid.raw_getD]
    exact congrArg Except.ok ((hsame.raw_eq a).trans Grid.raw_enterText_self)
  · rw [clear, h, Except.map, Std.ExtTreeMap.contains_iff_mem.2 ha]
  · exact fun hmem => (mem_erase_iff.1 hmem).1 rfl

theorem isAddressable_iff : s.IsAddressable ↔ ∀ a ∈ s.grid, a.HasLabel :=
  forall₂_congr fun _ _ =>
    exists_congr fun _ => ⟨Serves.named, serves_of_ofText⟩

end Sheet

/-! ## Where edits take cells -/

/-- The edit takes a stored cell or one on the clipboard to the address: an insertion pushes on the
cells at or behind its index, a paste takes the cells of the clipboard to their destinations. -/
inductive Edit.MovesTo (s : Sheet) : Edit → Address → Prop
  | insert {axis : Axis} {i : Coord} {a k : Address} (ha : a ∈ s.grid) (hi : i ≤ axis.coord a)
    (hk : axis.makeRoom i a = some k) : MovesTo s (.insert axis i) k
  | paste {label : String} {target a k : Address} {c : Clipboard}
    (htarget : Address.ofText label = .ok target) (hc : s.clipboard = some c) (ha : a ∈ c.cells)
    (hk : c.destination? target a = some k) : MovesTo s (.paste label) k

/-- A cell that moves back when a line is deleted keeps clear of the last lines. -/
theorem Address.HasLabel.closeUp {axis : Axis} {i : Coord} (ha : a.HasLabel)
    (hk : axis.closeUp i a = some k) : k.HasLabel := by
  rw [hasLabel_iff] at ha ⊢
  rcases Axis.closeUp_eq_some_iff.1 hk with ⟨-, rfl⟩ | ⟨-, hback, hwith⟩
  · exact ha
  · intro b
    by_cases hb : b = axis
    · subst hb
      have := ha b
      omega
    · have hcoord : b.coord k = b.coord a := by
        rw [← hwith]
        cases b <;> cases axis <;> first | rfl | exact absurd rfl hb
      rw [hcoord]
      exact ha b

namespace Sheet

variable {s t : Sheet} {e : Edit} {history : List Edit} {config : Config} {label : String}

/-- What is moved somewhere is stored there. -/
theorem mem_apply_of_movesTo (hk : e.MovesTo s k) : k ∈ (s.apply e).grid := by
  cases hk with
  | insert ha hi hk => exact mem_insertLine_iff.2 ⟨_, ha, hk⟩
  | @paste label target a k c htarget hc ha hk =>
    have hcells : c.cells.isEmpty = false :=
      Std.ExtTreeMap.isEmpty_eq_false_iff.2 (Std.ExtTreeMap.ne_empty_of_mem ha)
    have happly : s.apply (.paste label) = s.place (c.placed target) := by
      rw [apply, perform, paste_eq htarget hc hcells]
      rfl
    rw [happly]
    exact mem_place_iff.2 (.inl (Clipboard.mem_map_placed_iff.2 ⟨a, ha, hk⟩))

/-- What is stored after an edit was moved there by it or has a label. -/
theorem movesTo_or_hasLabel (hs : ∀ a ∈ s.grid, a.HasLabel) (he : e.Effect s t) (hk : k ∈ t.grid) :
    e.MovesTo s k ∨ k.HasLabel := by
  cases he with
  | setText ha =>
    rcases mem_enter_iff.1 hk with rfl | hk
    · exact .inr ⟨_, ha⟩
    · exact .inr (hs k hk)
  | setStyle ha =>
    rcases mem_restyle_iff.1 hk with rfl | hk
    · exact .inr ⟨_, ha⟩
    · exact .inr (hs k hk)
  | clear => exact .inr (hs k (mem_erase_iff.1 hk).2)
  | @insert axis i =>
    obtain ⟨a, ha, hmove⟩ := mem_insertLine_iff.1 hk
    by_cases hi : i ≤ axis.coord a
    · exact .inl (.insert ha hi hmove)
    · rw [Axis.makeRoom, if_pos (Fin.not_le.1 hi)] at hmove
      exact .inr (Option.some.inj hmove ▸ hs a ha)
  | delete =>
    obtain ⟨a, ha, hmove⟩ := mem_deleteLine_iff.1 hk
    exact .inr ((hs a ha).closeUp hmove)
  | copy => exact .inr (hs k hk)
  | cut => exact .inr (hs k (Grid.mem_of_mem_restrict (Grid.mem_propagate.1 hk)))
  | paste htarget hc =>
    rcases mem_place_iff.1 hk with hk | hk
    · obtain ⟨a, ha, hmove⟩ := Clipboard.mem_map_placed_iff.1 hk
      exact .inl (.paste htarget hc ha hmove)
    · exact .inr (hs k hk)
  | removeDuplicates => exact .inr (hs k (mem_eraseRepeated_iff.1 hk).1)
  | replaceNothing => exact .inr (hs k hk)
  | replace => exact .inr (hs k (Std.ExtTreeMap.mem_map.1 (Grid.mem_propagate.1 hk)))
  | @setSize axis =>
    cases axis with
    | row => exact .inr (hs k hk)
    | column => exact .inr (hs k hk)
  | register => exact .inr (hs k hk)
  | recalculate => exact .inr (hs k (Grid.mem_recalculate.1 hk))

/-- An edit leaves all cells addressable exactly if it moves none to the last row or column. -/
theorem isAddressable_apply_iff (hs : s.IsAddressable) :
    (s.apply e).IsAddressable ↔ ∀ k, e.MovesTo s k → k.HasLabel := by
  constructor
  · exact fun happly k hk => isAddressable_iff.1 happly k (mem_apply_of_movesTo hk)
  · intro hmoved
    rcases s.apply_effect e with h | he
    · rwa [h]
    · refine isAddressable_iff.2 fun k hk => ?_
      exact (movesTo_or_hasLabel (isAddressable_iff.1 hs) he hk).elim (hmoved k) id

theorem isAddressable_of_new (hs : Sheet.new config registry = .ok s) : s.IsAddressable := by
  obtain ⟨config, -, rfl⟩ := Except.map_eq_ok_iff.1 hs
  exact fun a ha => absurd ha Std.ExtTreeMap.not_mem_empty

/-- The sheet after one more edit. -/
theorem run_concat (s : Sheet) (history : List Edit) (e : Edit) :
    s.run (history ++ [e]) = (s.run history).apply e := by
  rw [run, List.foldl_append]
  rfl

/-- **Stored cells stay addressable as long as nothing is moved to the last row or column**: along a
history from a new sheet, every stored cell can be read, overwritten and cleared through a label at
all times exactly if no insertion and no paste takes a cell there. -/
theorem isAddressable_run_iff (hs : Sheet.new config registry = .ok s) :
    (∀ past, past <+: history → (s.run past).IsAddressable) ↔
      ∀ past e k, past ++ [e] <+: history → e.MovesTo (s.run past) k →
        ∀ axis : Axis, (axis.coord k).val + 1 < Coord.count := by
  simp only [← Address.hasLabel_iff]
  constructor
  · intro haddressable past e k hpast
    have hnext := haddressable _ hpast
    rw [run_concat] at hnext
    exact (isAddressable_apply_iff (haddressable past ((List.prefix_append _ _).trans hpast))).1
      hnext k
  · intro hmoved past
    induction past using List.reverseRecOn with
    | nil => exact fun _ => isAddressable_of_new hs
    | append_singleton past e ih =>
      intro hpast
      rw [run_concat, isAddressable_apply_iff (ih ((List.prefix_append _ _).trans hpast))]
      exact fun k => hmoved past e k hpast

/-- A cell that is pushed to the last row that labels reach. -/
theorem isAddressable_run_pushed :
    let s := Sheet.blank {} .builtin
    let history := [.setText "A18446744073709551614" "x", .insert .row 0]
    Sheet.new {} .builtin = .ok s ∧ (s.run history).grid.keys = [⟨18446744073709551614, 0⟩] ∧
      ∀ past, past <+: history → (s.run past).IsAddressable := by
  intro s history
  have hs : Sheet.new {} .builtin = .ok s := rfl
  refine ⟨hs, by decide +kernel, (isAddressable_run_iff hs).2 fun past e k hpast hk => ?_⟩
  rcases past with - | ⟨first, - | ⟨second, past⟩⟩
  · obtain ⟨rfl, -⟩ := List.cons_prefix_cons.1 hpast
    cases hk
  · obtain ⟨rfl, hrest⟩ := List.cons_prefix_cons.1 hpast
    obtain ⟨rfl, -⟩ := List.cons_prefix_cons.1 hrest
    have hk : k ∈ (s.run history).grid := mem_apply_of_movesTo hk
    have hkeys : (s.run history).grid.keys = [⟨18446744073709551614, 0⟩] := by decide +kernel
    rw [← Std.ExtTreeMap.mem_keys, hkeys, List.mem_singleton] at hk
    subst hk
    intro axis
    cases axis <;> decide
  · have hlength := hpast.length_le
    simp [history] at hlength

/-- A cell in the last column that labels reach is pushed on by one. Its new column is written by the
letters that come next, but these are not read back, so the cell is out of reach where it is now. -/
theorem not_isAddressable_run_pushed :
    let s := Sheet.blank {} .builtin
    let history := [.setText "GKGWBYLWRXTLPO1" "x", .insert .column 0]
    let a : Address := ⟨0, 18446744073709551615⟩
    Sheet.new {} .builtin = .ok s ∧ (s.run history).grid.keys = [a] ∧ a.label = "GKGWBYLWRXTLPP1" ∧
      (s.run history).cell a.label = .error (.invalidAddress a.label) ∧
      ¬(s.run history).IsAddressable := by
  intro s history a
  have hkeys : (s.run history).grid.keys = [a] := by decide +kernel
  have hlabel : Address.ofText a.label = .error (.invalidAddress a.label) := by decide +kernel
  refine ⟨rfl, hkeys, by decide +kernel, by rw [cell, hlabel]; rfl, fun h => ?_⟩
  have hmem : a ∈ (s.run history).grid := by
    rw [← Std.ExtTreeMap.mem_keys, hkeys]
    exact List.mem_singleton_self _
  have hread := Address.hasLabel_iff_ofText_label.1 (isAddressable_iff.1 h a hmem)
  rw [hlabel] at hread
  cases hread

end Sheet

end Spreadsheet
