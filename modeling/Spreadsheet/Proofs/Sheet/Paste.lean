import Spreadsheet.Proofs.Recalculation.Restoration
import Spreadsheet.Proofs.Sheet.History

/-!
# What a paste does

Pasting moves the block on the clipboard as a whole, drops what would leave the sheet, and settles
everything around the block. The pasted cells themselves are not evaluated: they keep the values
that they were copied with, unless they lead to a cycle in their new place.

* `Coord.FitsWord` are the integers that are signed words; distances that are such integers are exact
  (`Coord.distanceTo_eq_of_fitsWord`).
* `Clipboard.SendsTo` is the arithmetic of the move, for coordinates that fit a signed word.
* `Sheet.Pasted` describes the sheet after a paste address by address.
* `Sheet.paste_translates` says that this is what a paste does.
-/

namespace Spreadsheet

/-! ## The move -/

/-- Both coordinates are below `2 ^ 63`, so that read as signed words they are what they were. -/
structure Address.FitsSigned (a : Address) : Prop where
  row : a.row.val < 9223372036854775808
  column : a.column.val < 9223372036854775808

namespace Coord

variable {k l : Coord}

/-- The integer is a signed 64-bit word. -/
def FitsWord (i : Int) : Prop :=
  -9223372036854775808 ≤ i ∧ i < 9223372036854775808

instance {i : Int} : Decidable (FitsWord i) := inferInstanceAs (Decidable (_ ∧ _))

theorem signed_eq_bmod (k : Coord) : k.signed = Int.bmod k.val 18446744073709551616 := by
  have hk := k.isLt
  unfold signed
  split
  · exact (Int.bmod_eq_of_le (by omega) (by omega)).symm
  · rw [← Int.sub_bmod_right]
    exact (Int.bmod_eq_of_le (by omega) (by omega)).symm

/-- A distance that fits a signed word is taken exactly: what reading the coordinates as signed words
takes away, wrapping around gives back. -/
theorem distanceTo_eq_of_fitsWord (h : FitsWord (l.val - k.val)) :
    k.distanceTo l = l.val - k.val := by
  rw [distanceTo, signed_eq_bmod, signed_eq_bmod, Int.bmod_sub_bmod, Int.sub_bmod_bmod]
  exact Int.bmod_eq_of_le h.1 h.2

/-- From the first row of the second half of the axis one step back, although the difference of the
signed words overflows. -/
example : Coord.distanceTo 9223372036854775808 9223372036854775807 = -1 := by decide

/-- Two coordinates below `2 ^ 63` are at their distance as numbers. -/
theorem distanceTo_eq_of_lt (hk : k.val < 9223372036854775808) (hl : l.val < 9223372036854775808) :
    k.distanceTo l = l.val - k.val :=
  distanceTo_eq_of_fitsWord ⟨by omega, by omega⟩

end Coord

namespace Clipboard

variable {c : Clipboard} {target a b k : Address}

/-- The row, counted from the first row of the sheet, to which a paste takes an address. -/
def newRow (c : Clipboard) (target a : Address) : Int :=
  a.row.val + target.row.val - c.anchor.row.val

/-- The column, counted from the first column of the sheet, to which a paste takes an address. -/
def newColumn (c : Clipboard) (target a : Address) : Int :=
  a.column.val + target.column.val - c.anchor.column.val

/-- A paste takes one address to the other: the distance is that from the anchor to the target. -/
structure SendsTo (c : Clipboard) (target a k : Address) : Prop where
  row : (k.row.val : Int) = c.newRow target a
  column : (k.column.val : Int) = c.newColumn target a

theorem destination?_eq_some_iff (htarget : target.FitsSigned) (hanchor : c.anchor.FitsSigned) :
    c.destination? target a = some k ↔ c.SendsTo target a k := by
  rw [destination?, Address.shift?_eq_some_iff,
    Coord.distanceTo_eq_of_lt hanchor.row htarget.row,
    Coord.distanceTo_eq_of_lt hanchor.column htarget.column]
  constructor
  · rintro ⟨hrow, hcolumn⟩
    exact ⟨by rw [newRow]; omega, by rw [newColumn]; omega⟩
  · rintro ⟨hrow, hcolumn⟩
    rw [newRow] at hrow
    rw [newColumn] at hcolumn
    exact ⟨by omega, by omega⟩

/-- An address has no place to go to if it would come before the first row or column. -/
theorem exists_sendsTo_iff (htarget : target.FitsSigned) (ha : a.FitsSigned) :
    (∃ k, c.SendsTo target a k) ↔ 0 ≤ c.newRow target a ∧ 0 ≤ c.newColumn target a := by
  constructor
  · rintro ⟨k, hrow, hcolumn⟩
    exact ⟨by omega, by omega⟩
  · rintro ⟨hrow, hcolumn⟩
    -- two coordinates below `2 ^ 63` do not add up to more than the last one of the axis
    have hbound (n m l : Nat) (hn : n < 9223372036854775808) (hm : m < 9223372036854775808) :
        ((n : Int) + m - l).toNat < Coord.count := by
      rw [Coord.count]
      omega
    refine ⟨⟨⟨(c.newRow target a).toNat, hbound _ _ _ ha.row htarget.row⟩,
      ⟨(c.newColumn target a).toNat, hbound _ _ _ ha.column htarget.column⟩⟩, ?_, ?_⟩
    · exact Int.toNat_of_nonneg hrow
    · exact Int.toNat_of_nonneg hcolumn

/-- The places that are written are those to which some cell of the clipboard is taken. -/
theorem mem_places_iff (htarget : target.FitsSigned) (hanchor : c.anchor.FitsSigned) :
    k ∈ (c.placed target).map Prod.fst ↔ ∃ b ∈ c.cells, c.SendsTo target b k := by
  simp only [List.mem_map, Prod.exists, exists_and_right, exists_eq_right, mem_placed_iff,
    destination?_eq_some_iff htarget hanchor]
  constructor
  · rintro ⟨d, b, hb, hd⟩
    exact ⟨b, Grid.mem_iff_exists.2 ⟨d, hd⟩, hb⟩
  · rintro ⟨b, hstored, hb⟩
    obtain ⟨d, hd⟩ := Grid.mem_iff_exists.1 hstored
    exact ⟨d, b, hb, hd⟩

end Clipboard

/-! ## The sheet afterwards -/

namespace Sheet

variable {s t : Sheet} {c : Clipboard} {cells : List (Address × Cell)} {target k : Address}
  {d : Cell} {label : String} {registry : Registry} {P : String → Prop}

/-- The second sheet is the first one with the clipboard `c` pasted at `target`, which writes to
`places`. Every cell of the clipboard is written where the move takes it, or skipped if that is
before the first row or column. It takes its text, its formula and its style along, and its value
too, unless it leads to a cycle in the new grid. Elsewhere only values change, and every formula
cell there ends up with the value of its formula, if this was so all over the sheet and the formulas
that are stored now are reliable. -/
structure Pasted (c : Clipboard) (target : Address) (places : List Address) (s t : Sheet) :
    Prop where
  nodup : places.Nodup
  mem_places_iff (k : Address) : k ∈ places ↔ ∃ b ∈ c.cells, c.SendsTo target b k
  skipped (b : Address) (hb : b ∈ c.cells) :
    (∀ k, ¬c.SendsTo target b k) ↔ c.newRow target b < 0 ∨ c.newColumn target b < 0
  written (b k : Address) (d : Cell) (hd : c.cells[b]? = some d) (hk : c.SendsTo target b k) :
    t.grid[k]? = some (d.markedIn t.grid.graph k)
  kept (k : Address) (hk : k ∉ places) :
    t.grid[k]?.map Cell.uncomputed = s.grid[k]?.map Cell.uncomputed
  settled (hformulas : t.grid.FormulasSatisfy (Formula.IsReliable s.registry))
    (hsettled : s.grid.IsSettled s.registry) (k : Address) (hk : k ∉ places) :
    t.grid.IsSettledAt s.registry k
  rest : t = { s with grid := t.grid }

/-- The formulas after a paste are old ones or come from the clipboard. -/
theorem Pasted.formulasSatisfy {places : List Address} (h : Pasted c target places s t)
    (hs : s.grid.FormulasSatisfy P) (hc : c.cells.FormulasSatisfy P) :
    t.grid.FormulasSatisfy P := by
  intro k f hf
  by_cases hk : k ∈ places
  · obtain ⟨b, hb, hsend⟩ := (h.mem_places_iff k).1 hk
    obtain ⟨d, hd⟩ := Grid.mem_iff_exists.1 hb
    rw [Grid.formula?_of_getElem? (h.written b k d hd hsend), Cell.formula_markedIn] at hf
    exact hc b f (by rw [Grid.formula?_of_getElem? hd, hf])
  · exact hs k f (by rwa [Grid.formula?_congr_uncomputed (h.kept k hk)] at hf)

theorem grid_place (s : Sheet) (cells : List (Address × Cell)) :
    (s.place cells).grid =
      (s.grid.withBlock cells).propagate s.registry (cells.map Prod.fst) := rfl

/-- The cells of a block are not recomputed when it is written. -/
theorem getElem?_place_of_mem (hnodup : (cells.map Prod.fst).Nodup) (hk : (k, d) ∈ cells) :
    (s.place cells).grid[k]? = some (d.markedIn (s.place cells).grid.graph k) := by
  have hsource : k ∈ cells.map Prod.fst := List.mem_map_of_mem hk
  have hdep : k ∉ (s.grid.withBlock cells).graph.dependents (cells.map Prod.fst) := fun h =>
    (Graph.mem_dependents_iff.1 h).1 hsource
  rw [grid_place, Grid.getElem?_propagate hdep, Grid.graph_propagate, Grid.graph_withBlock,
    Grid.getElem?_withBlock_of_mem hnodup hk]

/-- Around a block only values change. -/
theorem map_uncomputed_place (hk : k ∉ cells.map Prod.fst) :
    (s.place cells).grid[k]?.map Cell.uncomputed = s.grid[k]?.map Cell.uncomputed := by
  rw [grid_place, (Grid.SameEntries.refl _).propagate k, Grid.getElem?_withBlock_of_notMem hk]

/-- Around a block all cells are settled, since the dependents of the block are recomputed. -/
theorem isSettledAt_place
    (hformulas : (s.place cells).grid.FormulasSatisfy (Formula.IsReliable s.registry))
    (hsettled : s.grid.IsSettled s.registry) (hk : k ∉ cells.map Prod.fst) :
    (s.place cells).grid.IsSettledAt s.registry k := by
  rw [grid_place] at hformulas ⊢
  have hblock : (s.grid.withBlock cells).FormulasSatisfy (Formula.IsReliable s.registry) :=
    fun a f hf => hformulas a f (by rwa [Grid.formula?_propagate])
  refine Grid.isSettledAt_propagate hblock (fun hdep => ?_) fun hs => absurd hs hk
  exact (hsettled k).of_change (fun b hb => (Grid.getElem?_withBlock_of_notMem hb).symm) hk hdep
    fun f hf => hblock k f hf

theorem pasted_place (htarget : target.FitsSigned) (hanchor : c.anchor.FitsSigned)
    (hcells : ∀ b ∈ c.cells, b.FitsSigned) :
    Pasted c target ((c.placed target).map Prod.fst) s (s.place (c.placed target)) where
  nodup := c.nodup_placed target
  mem_places_iff k := Clipboard.mem_places_iff htarget hanchor
  skipped b hb := by
    rw [← not_exists, Clipboard.exists_sendsTo_iff htarget (hcells b hb), not_and_or, Int.not_le,
      Int.not_le]
  written b k d hd hk := by
    refine getElem?_place_of_mem (c.nodup_placed target) (Clipboard.mem_placed_iff.2 ⟨b, ?_, hd⟩)
    exact (Clipboard.destination?_eq_some_iff htarget hanchor).2 hk
  kept k hk := map_uncomputed_place hk
  settled hformulas hsettled k hk := isSettledAt_place hformulas hsettled hk
  rest := rfl

/-- **A paste translates the block on the clipboard** and keeps the rest of the sheet settled. It
answers the number of cells that it has written. -/
theorem paste_translates (hlabel : Address.ofText label = .ok target) (hc : s.clipboard = some c)
    (hstored : c.cells.isEmpty = false) (htarget : target.FitsSigned)
    (hanchor : c.anchor.FitsSigned) (hcells : ∀ b ∈ c.cells, b.FitsSigned) :
    ∃ places t, s.paste label = .ok (places.length, t) ∧ Pasted c target places s t := by
  refine ⟨(c.placed target).map Prod.fst, s.place (c.placed target), ?_,
    pasted_place htarget hanchor hcells⟩
  rw [Sheet.paste, hlabel, hc, List.length_map]
  simp only [hstored]
  rfl

/-- The cell before the anchor is skipped. The other one reads its own new place, and so does a cell
that was there before. -/
theorem paste_translates_into_cycle :
    let s₀ := (Sheet.blank {} .builtin).run
      [.setText "A1" "left", .setText "B1" "=A3", .setText "C1" "=A3"]
    let c := Clipboard.snapshot s₀.grid ⟨0, 1⟩ ⟨0, 0⟩
    let s : Sheet := { s₀ with clipboard := some c }
    ∃ places t, s₀.copy "B1" "A1" = .ok (2, s) ∧ s.paste "A3" = .ok (places.length, t) ∧
      places.length = 1 ∧ Pasted c ⟨2, 0⟩ places s t ∧
        ∀ k ∉ places, t.grid.IsSettledAt s.registry k := by
  intro s₀ c s
  have hcovered : Formula.IsCovered .builtin "=A3" :=
    Formula.isCovered_of_reference (a := ⟨2, 0⟩) (by decide +kernel)
  have hnew : Sheet.new {} .builtin = .ok (Sheet.blank {} .builtin) := rfl
  have hs₀ : s₀.IsStable .builtin := by
    refine ((IsEntered.of_new hnew).run ?_).stable
    simp [Edit.EntersOrClears, hcovered, show Formula.isFormula "left" = false by decide]
  have hcopy : s₀.copy "B1" "A1" = .ok (c.cells.size, s) := by
    rw [Sheet.copy, show Address.ofText "B1" = .ok ⟨0, 1⟩ by decide +kernel,
      show Address.ofText "A1" = .ok ⟨0, 0⟩ by decide +kernel]
    rfl
  have hsize : c.cells.size = 2 := by decide +kernel
  have hcells : ∀ b ∈ c.cells.keys, b.row.val < 1 ∧ b.column.val < 2 := by decide +kernel
  have hcount : (s.paste "A3").map Prod.fst = .ok 1 := by decide +kernel
  have hfits : ∀ b ∈ c.cells, b.FitsSigned := fun b hb => by
    obtain ⟨hrow, hcolumn⟩ := hcells b (Std.ExtTreeMap.mem_keys.2 hb)
    exact ⟨by omega, by omega⟩
  obtain ⟨places, t, hpaste, h⟩ := @paste_translates s c ⟨2, 0⟩ "A3" (by decide +kernel) rfl
    (by decide +kernel) ⟨by decide, by decide⟩ ⟨by decide, by decide⟩ hfits
  have hregistry : s.registry = .builtin := hs₀.registry_eq
  have hformulas : s.grid.FormulasSatisfy (Formula.IsReliable s.registry) :=
    hregistry ▸ hs₀.formulas
  have hsettled : s.grid.IsSettled s.registry := hregistry ▸ hs₀.settled
  refine ⟨places, t, hsize ▸ hcopy, hpaste, ?_, h, ?_⟩
  · rw [hpaste] at hcount
    exact Except.ok.inj hcount
  · exact h.settled (h.formulasSatisfy hformulas hformulas.restrict) hsettled

end Sheet

end Spreadsheet
