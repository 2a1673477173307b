import Spreadsheet.Proofs.Sheet.History

/-!
# Cutting and pasting back

A block that is cut out of a settled sheet and pasted where it was leaves every cell of the sheet as
it was (`Sheet.paste_cut`). While the block is away, cells outside it lose their values and cycles
through it are broken. What comes back has the entries of the old grid, and only dependents of the
block can have lost their values, so that propagation restores them all.

* `Grid.cut` is the grid while the block is away, `Grid.putBack` the grid with the block in its
  place again, before anything is recomputed.
-/

namespace Spreadsheet

namespace Grid

open Spreadsheet.Graph

variable {registry : Registry} {g : Grid} {a : Address} {p : Address → Bool}

/-- The number of cells whose addresses satisfy a test. -/
theorem size_restrict (g : Grid) (p : Address → Bool) :
    (g.restrict p).size = (g.keys.filter p).length := by
  rw [← Std.ExtTreeMap.length_keys, restrict, Std.ExtTreeMap.keys_filter_key]

/-! ## The grid without the block -/

/-- The grid after the cells that satisfy a test are cut out. -/
def cut (registry : Registry) (g : Grid) (p : Address → Bool) : Grid :=
  (g.restrict fun a => !p a).propagate registry (g.restrict p).keys

/-- The formulas that are left are old ones. -/
theorem reads_restrict {x y : Address} (h : (g.restrict p).graph.Reads x y) :
    g.graph.Reads x y := by
  refine h.of_getElem?_eq ?_
  rw [getElem?_graph, getElem?_graph]
  refine congrArg _ (formula?_congr ?_)
  have hx := mem_graph_iff.1 h.mem
  rw [formula?, getElem?_restrict] at hx
  rw [getElem?_restrict]
  split at hx
  · rename_i hp
    rw [if_pos hp]
  · cases hx

/-- Away from the block and its dependents nothing changes. -/
theorem getElem?_cut (ha : p a = false) (hdep : a ∉ g.graph.dependents (g.restrict p).keys) :
    (g.cut registry p)[a]? = g[a]? := by
  rw [cut, getElem?_propagate (mt (dependents_mono fun _ _ => reads_restrict) hdep),
    getElem?_restrict, ha]
  rfl

theorem sameEntries_cut (registry : Registry) (g : Grid) (p : Address → Bool) :
    (g.cut registry p).SameEntries (g.restrict fun a => !p a) :=
  (SameEntries.refl _).propagate

/-! ## The block in its place again -/

/-- The grid with the block written back. -/
def putBack (registry : Registry) (g : Grid) (p : Address → Bool) : Grid :=
  (g.cut registry p).overwrite (g.restrict p).toList

/-- The block is as it was, the rest as the cut left it. -/
theorem getElem?_putBack (registry : Registry) (g : Grid) (p : Address → Bool) (a : Address) :
    (g.putBack registry p)[a]? = if p a then g[a]? else (g.cut registry p)[a]? := by
  rw [putBack, getElem?_overwrite_toList, getElem?_restrict]
  cases hp : p a with
  | false => rfl
  | true =>
    have hcut := sameEntries_cut registry g p a
    cases hg : g[a]? with
    | some c => rfl
    | none => simpa [getElem?_restrict, hp] using hcut

theorem sameEntries_putBack : (g.putBack registry p).SameEntries g := by
  intro a
  rw [getElem?_putBack]
  cases hp : p a with
  | true => rfl
  | false => simpa [getElem?_restrict, hp] using sameEntries_cut registry g p a

/-- **Propagating from the block restores a settled grid.** -/
theorem propagate_putBack (hg : g.FormulasSatisfy (Formula.IsReliable registry))
    (hsettled : g.IsSettled registry) :
    (g.putBack registry p).propagate registry (g.restrict p).keys = g := by
  refine propagate_eq hg hsettled sameEntries_putBack fun a ha => ?_
  rw [getElem?_putBack]
  cases hp : p a with
  | true => rfl
  | false => exact getElem?_cut hp ha

/-- The cells of the block are marked when they are back. -/
theorem isMarkedAt_putBack (hsettled : g.IsSettled registry) (ha : a ∈ (g.restrict p).keys) :
    (g.putBack registry p).IsMarkedAt a := by
  have hcell : (g.putBack registry p)[a]? = g[a]? := by
    rw [getElem?_putBack, if_pos (mem_keys_restrict.1 ha).1]
  rw [IsMarkedAt, sameEntries_putBack.graph_eq, value_congr hcell]
  exact (hsettled a).isMarkedAt

end Grid

/-! ## The sheet -/

namespace Sheet

variable {s : Sheet} {first last : String} {a b : Address}

/-- Pasting what was taken at its anchor restores the grid. -/
theorem grid_place_take (hformulas : s.grid.FormulasSatisfy (Formula.IsReliable s.registry))
    (hsettled : s.grid.IsSettled s.registry) :
    ((s.take a b).place ((Clipboard.snapshot s.grid a b).placed a)).grid = s.grid := by
  let p := (Range.between a b).contains
  have hplaced : (Clipboard.snapshot s.grid a b).placed a = (s.grid.restrict p).toList :=
    Clipboard.placed_anchor (Clipboard.snapshot s.grid a b)
  have hplaces : (s.grid.restrict p).toList.map Prod.fst = (s.grid.restrict p).keys :=
    Std.ExtTreeMap.map_fst_toList_eq_keys
  have hblock : (s.grid.cut s.registry p).withBlock (s.grid.restrict p).toList =
      s.grid.putBack s.registry p :=
    Grid.withBlock_eq_overwrite fun _ ha =>
      Grid.isMarkedAt_putBack hsettled (hplaces ▸ ha)
  have hgrid : ((s.take a b).place (s.grid.restrict p).toList).grid =
      ((s.grid.cut s.registry p).withBlock (s.grid.restrict p).toList).propagate s.registry
        ((s.grid.restrict p).toList.map Prod.fst) := rfl
  rw [hplaced, hgrid, hplaces, hblock]
  exact Grid.propagate_putBack hformulas hsettled

/-- **Cutting a block and pasting it back** leaves every cell of a settled sheet as it was, and both
answer the number of stored cells in the block. -/
theorem paste_cut (ha : Address.ofText first = .ok a) (hb : Address.ofText last = .ok b)
    (hformulas : s.grid.FormulasSatisfy (Formula.IsReliable s.registry))
    (hsettled : s.grid.IsSettled s.registry)
    (hstored : ∃ k ∈ s.grid, (Range.between a b).contains k = true) :
    ∃ s₁ s₂,
      s.cut first last = .ok ((s.grid.keys.filter (Range.between a b).contains).length, s₁) ∧
      s₁.paste first = .ok ((s.grid.keys.filter (Range.between a b).contains).length, s₂) ∧
      s₂.grid = s.grid := by
  let c := Clipboard.snapshot s.grid a b
  have hsize : c.cells.size = (s.grid.keys.filter (Range.between a b).contains).length :=
    Grid.size_restrict _ _
  have hlength : (c.placed a).length = c.cells.size := by
    rw [show c.placed a = c.cells.toList from c.placed_anchor, Std.ExtTreeMap.length_toList]
  have hcells : c.cells.isEmpty = false := by
    obtain ⟨k, hk, hcontains⟩ := hstored
    rw [← Std.ExtTreeMap.isEmpty_keys, List.isEmpty_eq_false_iff_exists_mem]
    exact ⟨k, Grid.mem_keys_restrict.2 ⟨hcontains, hk⟩⟩
  refine ⟨s.take a b, (s.take a b).place (c.placed a), ?_, ?_, grid_place_take hformulas hsettled⟩
  · rw [Sheet.cut, ha, hb, ← hsize]
    rfl
  · have hclipboard : (s.take a b).clipboard = some c := rfl
    rw [Sheet.paste, ha, hclipboard, ← hsize, ← hlength]
    simp only [hcells]
    rfl

/-- A cell of the block reads another one through a cell outside, and a cycle runs through the
block. -/
theorem paste_cut_through_outside :
    let s := (Sheet.blank {} .builtin).run
      [.setText "B1" "5", .setText "C1" "=B1", .setText "A1" "=C1", .setText "A2" "=D1",
        .setText "D1" "=A2"]
    (s.grid.IsSettled s.registry ∧ s.grid.formula? ⟨0, 0⟩ = some "=C1") ∧
      ∃ s₁ s₂, s.cut "A1" "B2" = .ok (3, s₁) ∧ s₁.paste "A1" = .ok (3, s₂) ∧ s₂.grid = s.grid := by
  intro s
  have covered {text : String} {a : Address}
      (h : Formula.Entry.ofText text = .reference a) : Formula.IsCovered .builtin text :=
    Formula.isCovered_of_reference h
  have hs : s.IsEntered .builtin := by
    have hnew : Sheet.new {} .builtin = .ok (Sheet.blank {} .builtin) := rfl
    refine (IsEntered.of_new hnew).run ?_
    simp only [List.forall_mem_cons, List.not_mem_nil, false_implies, implies_true, and_true]
    refine ⟨fun _ _ h => ?_, fun _ _ _ => covered (a := ⟨0, 1⟩) ?_,
      fun _ _ _ => covered (a := ⟨0, 2⟩) ?_, fun _ _ _ => covered (a := ⟨0, 3⟩) ?_,
      fun _ _ _ => covered (a := ⟨1, 0⟩) ?_⟩
    · exact absurd h (by decide)
    all_goals decide +kernel
  have hcount : (s.grid.keys.filter
      (Range.between ⟨0, 0⟩ ⟨1, 1⟩ : Range).contains).length = 3 := by decide +kernel
  have hregistry := hs.stable.registry_eq
  have hpaste := @paste_cut s "A1" "B2" ⟨0, 0⟩ ⟨1, 1⟩
    (by decide +kernel) (by decide +kernel) (hregistry ▸ hs.stable.formulas)
    (hregistry ▸ hs.stable.settled) ⟨⟨0, 0⟩, by decide +kernel, by decide +kernel⟩
  rw [hcount] at hpaste
  exact ⟨⟨hregistry ▸ hs.stable.settled, by decide +kernel⟩, hpaste⟩

end Sheet

end Spreadsheet
