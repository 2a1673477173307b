import Spreadsheet.Proofs.Recalculation.Recompute
import Spreadsheet.Sheet.Clipboard

/-!
# Writing a block of cells

A block is written cell by cell and then marked cell by cell, where a formula leads to a cycle. This
module says what is stored at an address after each of the two steps.

* `Clipboard.mem_placed_iff` says which cells a clipboard writes where, and
  `Clipboard.nodup_placed` that no two of them come to one place.
* `Grid.getElem?_overwrite_of_mem` and `Grid.getElem?_overwrite_of_notMem` look an address up after
  a block is written.
* `Cell.markedIn` is a cell after it is marked, `Grid.getElem?_foldl_markCircular_of_mem` looks up
  one of the cells that were marked.
* `Grid.withBlock` is the grid after both steps. Pasting propagates from there
  (`Sheet.place_eq_settle`).
-/

namespace Spreadsheet

/-! ## Where the cells of a clipboard go -/

namespace Address

variable {a b k : Address} {rows columns : Int}

theorem shift?_eq_some_iff :
    a.shift? rows columns = some k ↔
      (k.row.val : Int) = a.row.val + rows ∧ (k.column.val : Int) = a.column.val + columns := by
  obtain ⟨row, column⟩ := k
  simp [shift?, Option.bind_eq_some_iff, Coord.shift?_eq_some_iff]

/-- Two addresses that come to one place over the same distance are equal. -/
theorem eq_of_shift?_eq_some (ha : a.shift? rows columns = some k)
    (hb : b.shift? rows columns = some k) : a = b := by
  obtain ⟨hrow, hcolumn⟩ := shift?_eq_some_iff.1 ha
  obtain ⟨hrow', hcolumn'⟩ := shift?_eq_some_iff.1 hb
  have hr : a.row = b.row := Fin.ext (by omega)
  have hc : a.column = b.column := Fin.ext (by omega)
  exact congrArg₂ Address.mk hr hc

/-- Moving by no distance. -/
theorem shift?_zero (a : Address) : a.shift? 0 0 = some a :=
  shift?_eq_some_iff.2 (by simp)

end Address

namespace Clipboard

variable {c : Clipboard} {target a b k : Address} {d : Cell}

theorem destination?_injective (ha : c.destination? target a = some k)
    (hb : c.destination? target b = some k) : a = b :=
  Address.eq_of_shift?_eq_some ha hb

/-- The cells that are pasted are those of the clipboard that have a place to go to. -/
theorem mem_placed_iff :
    (k, d) ∈ c.placed target ↔ ∃ b, c.destination? target b = some k ∧ c.cells[b]? = some d :=
  @Grid.mem_relocated c.cells (c.destination? target) k d

/-- The places at which cells are pasted. -/
theorem mem_map_placed_iff :
    k ∈ (c.placed target).map Prod.fst ↔ ∃ a ∈ c.cells, c.destination? target a = some k := by
  simp only [List.mem_map, Prod.exists, exists_and_right, exists_eq_right, mem_placed_iff,
    Grid.mem_iff_exists]
  exact ⟨fun ⟨d, a, ha, hd⟩ => ⟨a, ⟨d, hd⟩, ha⟩, fun ⟨a, ⟨d, hd⟩, ha⟩ => ⟨d, a, ha, hd⟩⟩

/-- No two cells are pasted at one place. -/
theorem nodup_placed (c : Clipboard) (target : Address) :
    ((c.placed target).map Prod.fst).Nodup := by
  have hdistinct : (c.placed target).Pairwise fun x y => ¬compare x.1 y.1 = .eq :=
    Grid.distinct_relocated c.cells fun _ _ _ => destination?_injective
  exact List.pairwise_map.2 (hdistinct.imp fun h heq => h (Std.compare_eq_iff_eq.2 heq))

/-- Pasting at the anchor leaves every address where it is. -/
theorem destination?_anchor (c : Clipboard) (a : Address) : c.destination? c.anchor a = some a := by
  rw [destination?, Coord.distanceTo_self, Coord.distanceTo_self, Address.shift?_zero]

/-- Pasting at the anchor puts every cell where it was. -/
theorem placed_anchor (c : Clipboard) : c.placed c.anchor = c.cells.toList := by
  simp only [placed, destination?_anchor, Option.map_some]
  exact List.filterMap_some

end Clipboard

/-- The cell with the circular error, if its formula leads into a cycle. -/
def Cell.markedIn (graph : Graph) (a : Address) (c : Cell) : Cell :=
  match c.formula with
  | some f => if graph.hasCycle a (Formula.dependencies f) then c.compute (.error .circular) else c
  | none => c

theorem Cell.formula_markedIn {graph : Graph} {a : Address} {c : Cell} :
    (c.markedIn graph a).formula = c.formula := by
  unfold markedIn
  split
  · split <;> rfl
  · rfl

/-- Marking a cell twice is marking it once. -/
theorem Cell.markedIn_markedIn {graph : Graph} {a : Address} {c : Cell} :
    (c.markedIn graph a).markedIn graph a = c.markedIn graph a := by
  rw [markedIn, formula_markedIn]
  split
  · rename_i f hf
    split
    · rename_i hcycle
      simp [markedIn, hf, hcycle, compute]
    · rfl
  · rfl

namespace Grid

open Spreadsheet.Graph

variable {graph : Graph} {g : Grid} {P : String → Prop} {a b : Address} {c : Cell}
  {cells : List (Address × Cell)} {places : List Address}

/-! ## Writing cells -/

theorem getElem?_overwrite_of_notMem (hb : b ∉ cells.map Prod.fst) :
    (g.overwrite cells)[b]? = g[b]? := by
  induction cells generalizing g with
  | nil => rfl
  | cons entry cells ih =>
    rw [List.map_cons, List.mem_cons, not_or] at hb
    rw [overwrite, List.foldl_cons, ← overwrite, ih hb.2, Std.ExtTreeMap.getElem?_insert,
      if_neg (by simpa using Ne.symm hb.1)]

/-- A cell of the written grid is an old one or one of those that were written. -/
theorem getElem?_overwrite (hc : (g.overwrite cells)[b]? = some c) :
    g[b]? = some c ∨ (b, c) ∈ cells := by
  induction cells generalizing g with
  | nil => exact .inl hc
  | cons entry cells ih =>
    rw [overwrite, List.foldl_cons, ← overwrite] at hc
    rcases ih hc with hold | hnew
    · rw [Std.ExtTreeMap.getElem?_insert] at hold
      split at hold
      · rename_i hcompare
        obtain rfl : entry.1 = b := Std.LawfulEqOrd.eq_of_compare hcompare
        obtain rfl := Option.some.inj hold
        exact .inr (by simp)
      · exact .inl hold
    · exact .inr (List.mem_cons_of_mem _ hnew)

/-- Cells that are written to different addresses are all there afterwards. -/
theorem getElem?_overwrite_of_mem (hnodup : (cells.map Prod.fst).Nodup) (hb : (b, c) ∈ cells) :
    (g.overwrite cells)[b]? = some c := by
  induction cells generalizing g with
  | nil => cases hb
  | cons entry cells ih =>
    obtain ⟨hentry, hnodup⟩ := List.nodup_cons.1 hnodup
    rw [overwrite, List.foldl_cons, ← overwrite]
    rcases List.mem_cons.1 hb with rfl | hb
    · rw [getElem?_overwrite_of_notMem hentry, Std.ExtTreeMap.getElem?_insert_self]
    · exact ih hnodup hb

/-- The grid with all cells of another written over its own. -/
theorem getElem?_overwrite_toList (g block : Grid) (b : Address) :
    (g.overwrite block.toList)[b]? = block[b]?.or g[b]? := by
  have hkeys : block.toList.map Prod.fst = block.keys := Std.ExtTreeMap.map_fst_toList_eq_keys
  cases hb : block[b]? with
  | none =>
    refine getElem?_overwrite_of_notMem ?_
    rw [hkeys, Std.ExtTreeMap.mem_keys, Std.ExtTreeMap.mem_iff_isSome_getElem?, hb]
    simp
  | some c =>
    refine getElem?_overwrite_of_mem (hkeys ▸ Std.ExtTreeMap.nodup_keys) ?_
    exact Std.ExtTreeMap.mem_toList_iff_getElem?_eq_some.2 hb

/-- The formulas after a block is written. -/
theorem FormulasSatisfy.overwrite (hg : g.FormulasSatisfy P)
    (hcells : ∀ a d, (a, d) ∈ cells → ∀ f, d.formula = some f → P f) :
    (g.overwrite cells).FormulasSatisfy P := by
  intro b f hf
  obtain ⟨d, hd, hdf⟩ := exists_of_formula? hf
  rcases getElem?_overwrite hd with hold | hnew
  · exact hg b f (by rw [formula?_of_getElem? hold, hdf])
  · exact hcells b d hnew f hdf

/-! ## Marking cells -/

theorem markCircular_eq_modify (graph : Graph) (g : Grid) (a : Address) :
    g.markCircular graph a = g.modify a (Cell.markedIn graph a) := by
  refine Std.ExtTreeMap.ext_getElem? fun {b} => ?_
  rw [Std.ExtTreeMap.getElem?_modify, markCircular, formula?]
  by_cases hab : a = b
  · subst hab
    cases hc : g[a]? with
    | none => simp [hc]
    | some c =>
      cases hf : c.formula with
      | none => simp [hc, hf, Cell.markedIn]
      | some f => cases hcycle : graph.hasCycle a (Formula.dependencies f) <;>
          simp [hc, hf, hcycle, Cell.markedIn, getElem?_setValue]
  · rw [if_neg (by simpa using hab)]
    split
    · split
      · rw [getElem?_setValue, if_neg hab]
      · rfl
    · rfl

theorem getElem?_markCircular_self :
    (g.markCircular graph a)[a]? = g[a]?.map (·.markedIn graph a) := by
  rw [markCircular_eq_modify, Std.ExtTreeMap.getElem?_modify, if_pos Std.ReflOrd.compare_self]

theorem getElem?_markCircular_of_ne (hab : a ≠ b) : (g.markCircular graph a)[b]? = g[b]? := by
  rw [markCircular_eq_modify, Std.ExtTreeMap.getElem?_modify, if_neg (by simpa using hab)]

@[simp] theorem formula?_markCircular (g : Grid) :
    (g.markCircular graph a).formula? b = g.formula? b := by
  by_cases hab : a = b
  · subst hab
    rw [formula?, formula?, getElem?_markCircular_self, Option.bind_map]
    exact congrArg (g[a]?.bind ·) (funext fun _ => Cell.formula_markedIn)
  · exact formula?_congr (getElem?_markCircular_of_ne hab)

@[simp] theorem formula?_foldl_markCircular (g : Grid) (places : List Address) :
    (places.foldl (markCircular graph) g).formula? b = g.formula? b := by
  induction places generalizing g with
  | nil => rfl
  | cons a places ih => rw [List.foldl_cons, ih, formula?_markCircular]

theorem getElem?_foldl_markCircular (hb : b ∉ places) :
    (places.foldl (markCircular graph) g)[b]? = g[b]? := by
  induction places generalizing g with
  | nil => rfl
  | cons a places ih =>
    rw [List.mem_cons, not_or] at hb
    rw [List.foldl_cons, ih hb.2, getElem?_markCircular_of_ne (Ne.symm hb.1)]

/-- Every one of the places is marked, however often it is listed. -/
theorem getElem?_foldl_markCircular_of_mem (hb : b ∈ places) :
    (places.foldl (markCircular graph) g)[b]? = g[b]?.map (·.markedIn graph b) := by
  induction places generalizing g with
  | nil => cases hb
  | cons a places ih =>
    rw [List.foldl_cons]
    by_cases hmem : b ∈ places
    · rw [ih hmem]
      by_cases hab : a = b
      · subst hab
        rw [getElem?_markCircular_self, Option.map_map]
        exact congrArg (g[a]?.map ·) (funext fun _ => Cell.markedIn_markedIn)
      · rw [getElem?_markCircular_of_ne hab]
    · obtain rfl : b = a := (List.mem_cons.1 hb).resolve_right hmem
      rw [getElem?_foldl_markCircular hmem, getElem?_markCircular_self]

/-- A place that leads to a cycle is marked. -/
theorem value_foldl_markCircular (hb : b ∈ places) (hcycle : g.graph.LeadsToCycle b) :
    (places.foldl (markCircular g.graph) g).value b = .error .circular := by
  obtain ⟨f, hf⟩ := formula?_of_leadsToCycle hcycle
  obtain ⟨c, hc, hcf⟩ := exists_of_formula? hf
  rw [value, getElem?_foldl_markCircular_of_mem hb, hc]
  simp [Cell.markedIn, hcf, (hasCycle_graph_iff hf).2 hcycle, Cell.compute]

/-- Marking changes nothing in a cell that is marked already. -/
theorem markCircular_eq_self (ha : g.IsMarkedAt a) : g.markCircular g.graph a = g := by
  unfold markCircular
  split
  · rename_i f hf
    split
    · rename_i hcycle
      rw [← ha ((hasCycle_graph_iff hf).1 hcycle), setValue_value_self]
    · rfl
  · rfl

theorem foldl_markCircular_eq_self (h : ∀ a ∈ places, g.IsMarkedAt a) :
    places.foldl (markCircular g.graph) g = g := by
  induction places with
  | nil => rfl
  | cons a places ih =>
    obtain ⟨ha, hplaces⟩ := List.forall_mem_cons.1 h
    rw [List.foldl_cons, markCircular_eq_self ha, ih hplaces]

/-! ## A block in its place -/

/-- The grid with a block of cells written into it and marked there. -/
def withBlock (g : Grid) (cells : List (Address × Cell)) : Grid :=
  (cells.map Prod.fst).foldl (markCircular (g.overwrite cells).graph) (g.overwrite cells)

@[simp] theorem formula?_withBlock (g : Grid) (cells : List (Address × Cell)) :
    (g.withBlock cells).formula? b = (g.overwrite cells).formula? b :=
  formula?_foldl_markCircular ..

@[simp] theorem graph_withBlock (g : Grid) (cells : List (Address × Cell)) :
    (g.withBlock cells).graph = (g.overwrite cells).graph :=
  graph_congr fun _ => formula?_withBlock g cells

theorem getElem?_withBlock_of_notMem (hb : b ∉ cells.map Prod.fst) :
    (g.withBlock cells)[b]? = g[b]? := by
  rw [withBlock, getElem?_foldl_markCircular hb, getElem?_overwrite_of_notMem hb]

theorem getElem?_withBlock_of_mem (hnodup : (cells.map Prod.fst).Nodup) (hb : (b, c) ∈ cells) :
    (g.withBlock cells)[b]? = some (c.markedIn (g.overwrite cells).graph b) := by
  rw [withBlock, getElem?_foldl_markCircular_of_mem (List.mem_map_of_mem hb),
    getElem?_overwrite_of_mem hnodup hb, Option.map_some]

/-- A block that is marked already is only written. -/
theorem withBlock_eq_overwrite (h : ∀ a ∈ cells.map Prod.fst, (g.overwrite cells).IsMarkedAt a) :
    g.withBlock cells = g.overwrite cells :=
  foldl_markCircular_eq_self h

/-- The cells of the block are marked. -/
theorem isMarkedAt_withBlock (hb : b ∈ cells.map Prod.fst) : (g.withBlock cells).IsMarkedAt b := by
  rw [IsMarkedAt, graph_withBlock]
  exact value_foldl_markCircular hb

end Grid

theorem Sheet.place_eq_settle (s : Sheet) (cells : List (Address × Cell)) :
    s.place cells = s.settle (s.grid.withBlock cells) (cells.map Prod.fst) := rfl

/-- A paste that is not refused places the cells of the clipboard. -/
theorem Sheet.paste_eq {s : Sheet} {c : Clipboard} {label : String} {target : Address}
    (htarget : Address.ofText label = .ok target) (hc : s.clipboard = some c)
    (hcells : c.cells.isEmpty = false) :
    s.paste label = .ok ((c.placed target).length, s.place (c.placed target)) := by
  rw [Sheet.paste, htarget, hc]
  simp only [hcells]
  rfl

end Spreadsheet
