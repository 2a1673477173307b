import Spreadsheet.Proofs.Sheet.Paste

/-!
# Where a pasted block lands

A paste moves a block by the distance from the anchor to the target. The distance is taken between
coordinates that are read as signed words, so it is right as long as it fits a signed word. A longer
one is off by `2 ^ 64`, and then the wrong cells are written: what should land on the sheet leaves it
at one end of the axis, and what should leave it comes back at the other. Targets for which the
difference of the signed words overflows are left aside here.

* `Coord.OnAxis` are the integers that are coordinates. `Coord.onAxis_signed_iff` says what becomes of
  one coordinate, `Clipboard.exists_destination?_iff` what becomes of an address.
* `Clipboard.not_sendsTo_of_destination?`: a wrong distance takes no cell to a place where a cell
  should be.
* `Sheet.paste_lands_iff` says when a paste writes the block where it should.
-/

namespace Spreadsheet

/-! ## Distances between signed words -/

namespace Coord

variable {k l m : Coord} {i : Int}

/-- The integer is the index of a line. -/
def OnAxis (i : Int) : Prop :=
  0 ≤ i ∧ i < count

instance : Decidable (OnAxis i) := inferInstanceAs (Decidable (_ ∧ _))

theorem exists_val_eq_iff : (∃ k : Coord, (k.val : Int) = i) ↔ OnAxis i := by
  constructor
  · rintro ⟨k, rfl⟩
    have hk : k.val < count := k.isLt
    exact ⟨by omega, by omega⟩
  · rintro ⟨hnonneg, hlt⟩
    have hlt : i.toNat < count := by omega
    exact ⟨⟨i.toNat, hlt⟩, Int.toNat_of_nonneg hnonneg⟩

/-- A difference of signed words that is such a word itself does not wrap around. -/
theorem distanceTo_of_fitsWord_signed (h : FitsWord (l.signed - k.signed)) :
    k.distanceTo l = l.signed - k.signed :=
  Int.bmod_eq_of_le h.1 h.2

theorem signed_cases (k : Coord) :
    k.val < 9223372036854775808 ∧ k.signed = k.val ∨
      9223372036854775808 ≤ k.val ∧ k.signed = k.val - 18446744073709551616 := by
  by_cases hk : k.val < 9223372036854775808
  · exact .inl ⟨hk, if_pos hk⟩
  · exact .inr ⟨Nat.le_of_not_lt hk, if_neg hk⟩

/-- A distance that fits a signed word is the difference of the signed words, unless this difference
overflows. -/
theorem signed_sub_signed (hfits : FitsWord (l.val - k.val))
    (hsigned : FitsWord (l.signed - k.signed)) : l.signed - k.signed = l.val - k.val :=
  (distanceTo_of_fitsWord_signed hsigned).symm.trans (distanceTo_eq_of_fitsWord hfits)

/-- If the distance fits no signed word, the difference of the signed words is off by `2 ^ 64`: the
coordinates lie in different halves of the axis. -/
theorem signed_sub_signed_of_not (hfits : ¬FitsWord (l.val - k.val)) :
    k.val < l.val ∧ l.signed - k.signed = l.val - k.val - 18446744073709551616 ∨
      l.val < k.val ∧ l.signed - k.signed = l.val - k.val + 18446744073709551616 := by
  have hk := k.isLt
  have hl := l.isLt
  unfold FitsWord at hfits
  rcases signed_cases k with ⟨hk, hk'⟩ | ⟨hk, hk'⟩ <;>
    rcases signed_cases l with ⟨hl, hl'⟩ | ⟨hl, hl'⟩ <;> omega

/-- A coordinate that is moved by the difference of two signed words stays on the axis exactly if it
should, provided that the distance fits a signed word. Otherwise it stays there exactly if it should
not. -/
theorem onAxis_signed_iff (hsigned : FitsWord (l.signed - k.signed)) (m : Coord) :
    OnAxis (m.val + (l.signed - k.signed)) ↔
      (OnAxis (m.val + l.val - k.val) ↔ FitsWord (l.val - k.val)) := by
  by_cases hfits : FitsWord (l.val - k.val)
  · rw [signed_sub_signed hfits hsigned, iff_true_right hfits, Int.add_sub_assoc]
  · rw [iff_false_right hfits]
    have hk := k.isLt
    have hl := l.isLt
    have hm := m.isLt
    unfold OnAxis count
    rcases signed_sub_signed_of_not hfits with ⟨hkl, hdistance⟩ | ⟨hlk, hdistance⟩ <;> omega

end Coord

namespace Clipboard

open Coord (FitsWord OnAxis)

variable {c : Clipboard} {target a b k : Address} {axis : Axis}

/-- The distance along an axis from the anchor to the target of a paste. -/
def distance (c : Clipboard) (target : Address) (axis : Axis) : Int :=
  (axis.coord target).val - (axis.coord c.anchor).val

/-- The distance along an axis as it is taken between signed words. -/
def signedDistance (c : Clipboard) (target : Address) (axis : Axis) : Int :=
  (axis.coord target).signed - (axis.coord c.anchor).signed

/-- The index along an axis to which a paste should take an address. -/
def newIndex (c : Clipboard) (target : Address) (axis : Axis) (a : Address) : Int :=
  (axis.coord a).val + (axis.coord target).val - (axis.coord c.anchor).val

theorem sendsTo_iff :
    c.SendsTo target a k ↔ ∀ axis : Axis, ((axis.coord k).val : Int) = c.newIndex target axis a :=
  ⟨fun h axis => match axis with
    | .row => h.row
    | .column => h.column, fun h => ⟨h .row, h .column⟩⟩

/-- Without an overflow an address is moved by the difference of the signed words. -/
theorem destination?_eq_some_iff_coord
    (hsigned : ∀ axis, FitsWord (c.signedDistance target axis)) :
    c.destination? target a = some k ↔
      ∀ axis : Axis, ((axis.coord k).val : Int) =
        (axis.coord a).val + c.signedDistance target axis := by
  have hdistance (axis : Axis) :
      (axis.coord c.anchor).distanceTo (axis.coord target) = c.signedDistance target axis :=
    Coord.distanceTo_of_fitsWord_signed (hsigned axis)
  rw [destination?, Address.shift?_eq_some_iff,
    show c.anchor.row.distanceTo target.row = _ from hdistance .row,
    show c.anchor.column.distanceTo target.column = _ from hdistance .column]
  constructor
  · rintro ⟨hrow, hcolumn⟩ axis
    cases axis with
    | row => exact hrow
    | column => exact hcolumn
  · exact fun h => ⟨h .row, h .column⟩

/-- An address is given by its index along each axis. -/
theorem exists_coord_eq_iff {f : Axis → Int} :
    (∃ k : Address, ∀ axis : Axis, ((axis.coord k).val : Int) = f axis) ↔
      ∀ axis, OnAxis (f axis) := by
  simp only [← Coord.exists_val_eq_iff]
  constructor
  · rintro ⟨k, hk⟩ axis
    exact ⟨axis.coord k, hk axis⟩
  · intro h
    obtain ⟨row, hrow⟩ := h .row
    obtain ⟨column, hcolumn⟩ := h .column
    exact ⟨⟨row, column⟩, fun axis => match axis with
      | .row => hrow
      | .column => hcolumn⟩

/-- An address should be taken somewhere if its new indices are those of lines. -/
theorem exists_sendsTo_iff_onAxis :
    (∃ k, c.SendsTo target a k) ↔ ∀ axis, OnAxis (c.newIndex target axis a) := by
  simp only [sendsTo_iff]
  exact exists_coord_eq_iff

/-- An address is taken somewhere if each new index is that of a line, or is not where the distance
fits no signed word. -/
theorem exists_destination?_iff (hsigned : ∀ axis, FitsWord (c.signedDistance target axis)) :
    (∃ k, c.destination? target a = some k) ↔
      ∀ axis, OnAxis (c.newIndex target axis a) ↔ FitsWord (c.distance target axis) := by
  simp only [destination?_eq_some_iff_coord hsigned]
  refine exists_coord_eq_iff.trans (forall_congr' fun axis => ?_)
  exact Coord.onAxis_signed_iff (hsigned axis) _

/-- Over distances that fit a signed word every address is taken where it should be. -/
theorem destination?_eq_some_iff_sendsTo
    (hsigned : ∀ axis, FitsWord (c.signedDistance target axis))
    (hfits : ∀ axis, FitsWord (c.distance target axis)) :
    c.destination? target a = some k ↔ c.SendsTo target a k := by
  rw [destination?_eq_some_iff_coord hsigned, sendsTo_iff]
  refine forall_congr' fun axis => ?_
  rw [signedDistance, Coord.signed_sub_signed (hfits axis) (hsigned axis), newIndex,
    Int.add_sub_assoc]

/-- Over a distance that fits no signed word no address is taken to a place where one should be. -/
theorem not_sendsTo_of_destination? (hsigned : ∀ axis, FitsWord (c.signedDistance target axis))
    (hfits : ¬FitsWord (c.distance target axis)) (ha : c.destination? target a = some k) :
    ¬c.SendsTo target b k := by
  intro hb
  have hmoved := (destination?_eq_some_iff_coord hsigned).1 ha axis
  have hshould := sendsTo_iff.1 hb axis
  have hlta := (axis.coord a).isLt
  have hltb := (axis.coord b).isLt
  rw [newIndex] at hshould
  rw [signedDistance] at hmoved
  rcases Coord.signed_sub_signed_of_not hfits with ⟨-, hdistance⟩ | ⟨-, hdistance⟩ <;> omega

/-- The anchor itself should land on the target. -/
theorem sendsTo_anchor (c : Clipboard) (target : Address) : c.SendsTo target c.anchor target :=
  sendsTo_iff.2 fun axis => by
    rw [newIndex]
    omega

/-- Only the anchor lands on the target, and only over distances that fit a signed word. -/
theorem destination?_eq_target_iff (hsigned : ∀ axis, FitsWord (c.signedDistance target axis)) :
    c.destination? target a = some target ↔
      a = c.anchor ∧ ∀ axis, FitsWord (c.distance target axis) := by
  have hanchor (hfits : ∀ axis, FitsWord (c.distance target axis)) :
      c.destination? target c.anchor = some target :=
    (destination?_eq_some_iff_sendsTo hsigned hfits).2 (c.sendsTo_anchor target)
  constructor
  · intro ha
    have hfits : ∀ axis, FitsWord (c.distance target axis) := fun axis => by
      by_contra hfits
      exact not_sendsTo_of_destination? hsigned hfits ha (c.sendsTo_anchor target)
    exact ⟨destination?_injective ha (hanchor hfits), hfits⟩
  · rintro ⟨rfl, hfits⟩
    exact hanchor hfits

end Clipboard

/-! ## What is written -/

namespace Sheet

open Coord (FitsWord OnAxis)

variable {s t : Sheet} {c : Clipboard} {target k : Address} {sends : Address → Address → Prop}
  {places : List Address} {label : String}

/-- The second sheet is the first one with the cells of a clipboard written to `places`, which are
those to which some of them is sent. The others are skipped. A cell that is written is as it was on
the clipboard, but that it has the circular error if it leads to a cycle in its new place. Elsewhere
only values change. -/
structure BlockWritten (c : Clipboard) (sends : Address → Address → Prop) (places : List Address)
    (s t : Sheet) : Prop where
  nodup : places.Nodup
  mem_places_iff (k : Address) : k ∈ places ↔ ∃ a ∈ c.cells, sends a k
  written (a k : Address) (d : Cell) (hd : c.cells[a]? = some d) (hk : sends a k) :
    t.grid[k]? = some (d.markedIn t.grid.graph k)
  kept (k : Address) (hk : k ∉ places) :
    t.grid[k]?.map Cell.uncomputed = s.grid[k]?.map Cell.uncomputed
  rest : t = { s with grid := t.grid }

theorem blockWritten_place (s : Sheet) (c : Clipboard) (target : Address) :
    BlockWritten c (fun a k => c.destination? target a = some k)
      ((c.placed target).map Prod.fst) s (s.place (c.placed target)) where
  nodup := c.nodup_placed target
  mem_places_iff _ := Clipboard.mem_map_placed_iff
  written a _ _ hd hk :=
    getElem?_place_of_mem (c.nodup_placed target) (Clipboard.mem_placed_iff.2 ⟨a, hk, hd⟩)
  kept _ hk := map_uncomputed_place hk
  rest := rfl

/-- A block that is written to the places of one kind is written to those of another, if the cells
of the clipboard are sent to the same places. -/
theorem BlockWritten.congr {sends' : Address → Address → Prop} (h : BlockWritten c sends places s t)
    (hsends : ∀ a ∈ c.cells, ∀ k, sends' a k ↔ sends a k) : BlockWritten c sends' places s t where
  nodup := h.nodup
  mem_places_iff k := (h.mem_places_iff k).trans
    (exists_congr fun a => and_congr_right fun ha => (hsends a ha k).symm)
  written a k d hd hk := h.written a k d hd ((hsends a (Grid.mem_iff_exists.2 ⟨d, hd⟩) k).1 hk)
  kept := h.kept
  rest := h.rest

/-- A block that is written as it should be although some distance fits no signed word is empty:
nothing should be written, and nothing is. -/
theorem BlockWritten.skips {axis : Axis}
    (hsigned : ∀ axis, FitsWord (c.signedDistance target axis))
    (hfits : ¬FitsWord (c.distance target axis))
    (hwritten : BlockWritten c (fun a k => c.destination? target a = some k) places s t)
    (h : BlockWritten c (c.SendsTo target) places s t) {a : Address} (ha : a ∈ c.cells) :
    (¬∃ k, c.SendsTo target a k) ∧ ¬∃ k, c.destination? target a = some k := by
  constructor
  · rintro ⟨k, hk⟩
    obtain ⟨b, -, hb⟩ := (hwritten.mem_places_iff k).1 ((h.mem_places_iff k).2 ⟨a, ha, hk⟩)
    exact Clipboard.not_sendsTo_of_destination? hsigned hfits hb hk
  · rintro ⟨k, hk⟩
    obtain ⟨b, -, hb⟩ := (h.mem_places_iff k).1 ((hwritten.mem_places_iff k).2 ⟨a, ha, hk⟩)
    exact Clipboard.not_sendsTo_of_destination? hsigned hfits hk hb

/-- **A pasted block lands where it should if the distance fits a signed word** along both axes.
Otherwise this is so only if nothing should be written and nothing is. The cell at the anchor lands
on the target exactly if the distance fits. -/
theorem paste_lands_iff (hlabel : Address.ofText label = .ok target) (hc : s.clipboard = some c)
    (hstored : c.cells.isEmpty = false)
    (hsigned : ∀ axis, FitsWord (c.signedDistance target axis)) :
    ∃ places t, s.paste label = .ok (places.length, t) ∧
      BlockWritten c (fun a k => c.destination? target a = some k) places s t ∧
      (BlockWritten c (c.SendsTo target) places s t ↔
        (∀ axis, FitsWord (c.distance target axis)) ∨
          ∀ a ∈ c.cells, (∃ axis, ¬OnAxis (c.newIndex target axis a)) ∧
            ∃ axis, ¬(OnAxis (c.newIndex target axis a) ↔ FitsWord (c.distance target axis))) ∧
      (target ∈ places ↔ c.anchor ∈ c.cells ∧ ∀ axis, FitsWord (c.distance target axis)) := by
  have hwritten := blockWritten_place s c target
  refine ⟨(c.placed target).map Prod.fst, s.place (c.placed target), ?_, hwritten, ?_, ?_⟩
  · rw [paste_eq hlabel hc hstored, List.length_map]
  · simp only [← not_forall, ← Clipboard.exists_sendsTo_iff_onAxis,
      ← Clipboard.exists_destination?_iff hsigned]
    constructor
    · intro h
      refine or_iff_not_imp_left.2 fun hfits a ha => ?_
      obtain ⟨axis, hfits⟩ := not_forall.1 hfits
      exact hwritten.skips hsigned hfits h ha
    · rintro (hfits | hskipped)
      · exact hwritten.congr fun a _ k =>
          (Clipboard.destination?_eq_some_iff_sendsTo hsigned hfits).symm
      · refine hwritten.congr fun a ha k => ?_
        obtain ⟨hshould, hmoved⟩ := hskipped a ha
        exact iff_of_false (not_exists.1 hshould k) (not_exists.1 hmoved k)
  · rw [hwritten.mem_places_iff]
    simp only [Clipboard.destination?_eq_target_iff hsigned, ← and_assoc, exists_and_right,
      exists_eq_right]

/-- From the last row that has a number up to the middle of the axis, and one row beyond. -/
theorem paste_lands_from_last_row :
    let s₀ := (Sheet.blank {} .builtin).run
      [.setText "A18446744073709551614" "above", .setText "A18446744073709551615" "=A1"]
    let c := Clipboard.snapshot s₀.grid ⟨18446744073709551614, 0⟩ ⟨18446744073709551613, 0⟩
    let s : Sheet := { s₀ with clipboard := some c }
    ∃ places t, s₀.copy "A18446744073709551615" "A18446744073709551614" = .ok (2, s) ∧
      s.paste "A9223372036854775809" = .ok (places.length, t) ∧ places.length = 2 ∧
        BlockWritten c (c.SendsTo ⟨9223372036854775808, 0⟩) places s t ∧
          ⟨9223372036854775808, 0⟩ ∈ places := by
  intro s₀ c s
  have hcopy : s₀.copy "A18446744073709551615" "A18446744073709551614" = .ok (c.cells.size, s) := by
    rw [Sheet.copy, show Address.ofText "A18446744073709551615" = .ok ⟨18446744073709551614, 0⟩ by
      decide +kernel, show Address.ofText "A18446744073709551614" = .ok ⟨18446744073709551613, 0⟩ by
      decide +kernel]
    rfl
  have hsize : c.cells.size = 2 := by decide +kernel
  have hanchor : c.anchor ∈ c.cells := by decide +kernel
  have hcount : (s.paste "A9223372036854775809").map Prod.fst = .ok 2 := by decide +kernel
  have hfits : ∀ axis, FitsWord (c.distance ⟨9223372036854775808, 0⟩ axis) := by
    intro axis
    cases axis <;> decide +kernel
  obtain ⟨places, t, hpaste, -, hlands, htarget⟩ :=
    @paste_lands_iff s c ⟨9223372036854775808, 0⟩ "A9223372036854775809" (by decide +kernel) rfl
      (by decide +kernel) fun axis => by cases axis <;> decide +kernel
  refine ⟨places, t, hsize ▸ hcopy, hpaste, ?_, hlands.2 (.inl hfits), htarget.2 ⟨hanchor, hfits⟩⟩
  rw [hpaste] at hcount
  exact Except.ok.inj hcount

/-- From the first cell to the first row of the second half of the axis: the difference of the
signed words does not overflow, but it is negative, and the only cell of the block is skipped. -/
theorem not_blockWritten_across_halves :
    let s₀ := (Sheet.blank {} .builtin).run [.setText "A1" "x"]
    let c := Clipboard.snapshot s₀.grid ⟨0, 0⟩ ⟨0, 0⟩
    let s : Sheet := { s₀ with clipboard := some c }
    let target : Address := ⟨9223372036854775808, 0⟩
    Address.ofText "A9223372036854775809" = .ok target ∧
      (∀ axis, FitsWord (c.signedDistance target axis)) ∧ c.anchor ∈ c.cells ∧
      (s.paste "A9223372036854775809").map Prod.fst = .ok 0 ∧
      ¬∃ places t, s.paste "A9223372036854775809" = .ok (places.length, t) ∧
        BlockWritten c (c.SendsTo target) places s t := by
  intro s₀ c s target
  have hanchor : c.anchor ∈ c.cells := by decide +kernel
  have hcount : (s.paste "A9223372036854775809").map Prod.fst = .ok 0 := by decide +kernel
  refine ⟨by decide +kernel, fun axis => by cases axis <;> decide +kernel, hanchor, hcount, ?_⟩
  rintro ⟨places, t, hpaste, h⟩
  rw [hpaste] at hcount
  have hnil : places = [] := List.length_eq_zero_iff.1 (Except.ok.inj hcount)
  have htarget := (h.mem_places_iff target).2 ⟨c.anchor, hanchor, c.sendsTo_anchor target⟩
  rw [hnil] at htarget
  cases htarget

end Sheet

end Spreadsheet
