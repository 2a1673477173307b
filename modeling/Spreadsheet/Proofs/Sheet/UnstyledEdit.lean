import Spreadsheet.Proofs.Recalculation.Sources
import Spreadsheet.Proofs.Sheet.Unstyled

/-!
# Edits without styles

`Sheet.unstyled` takes all styles off a sheet and off its clipboard. Most edits do the same to a
sheet whether its styles are taken off before or afterwards. Two kinds of edit have to be looked at:

* Taking away a cell that holds nothing but a style changes no contents, but its dependents are
  recomputed on its account (`Sheet.unstyled_removeWhere`).
* Pasting such a cell moreover writes over what was at its place (`Sheet.unstyled_place`).

`Sheet.IsSteadyAt` says that recomputing the dependents of an address changes nothing.
-/

namespace Spreadsheet

variable {registry : Registry}

/-! ## Proper cells -/

/-- What holds of all cells along a history: formulas start with an equals sign, and a cell without
formula and value holds no text. -/
structure Cell.IsProper (c : Cell) : Prop where
  formula : ∀ f, c.formula = some f → Formula.isFormula f = true
  text : c.formula = none → c.computed = .null → c.raw = ""

namespace Cell

theorem isKept_isProper : IsKept IsProper where
  blank := ⟨by simp, fun _ _ => rfl⟩
  enter c text v _ hv := by
    constructor
    · intro f hf
      cases htext : Formula.isFormula text with
      | true =>
        obtain rfl : text = f := by simpa [Cell.enter, compute, htext] using hf
        exact htext
      | false => simp [Cell.enter, compute, htext] at hf
    · intro hnone hnull
      have htext : Formula.isFormula text = false := by
        simpa [Cell.enter, compute] using hnone
      exact absurd ((hv htext).symm.trans hnull) ofLiteral_ne_null
  restyle _ _ h := ⟨h.formula, h.text⟩
  valueFree c v hsome h := by
    refine ⟨h.formula, fun hnone => ?_⟩
    have hc : c.formula = none := hnone
    simp [hc] at hsome

variable {find new : String} {c : Cell}

theorem replaceValue_eq_null_iff {v : Value} :
    Sheet.replaceValue find new v = .null ↔ v = .null := by
  cases v <;> simp [Sheet.replaceValue, ofLiteral_ne_null]

theorem IsProper.replaceCell (h : c.IsProper) :
    (Sheet.replaceCell find new c).IsProper := by
  refine ⟨h.formula, fun hnone hnull => ?_⟩
  have hnull' : c.computed = .null := replaceValue_eq_null_iff.1 hnull
  have hraw : c.raw = "" := h.text hnone hnull'
  simp [Sheet.replaceCell, hraw, Sheet.replaceText, Text.replaceAll]

/-- A replacement treats a cell as it treats its contents. -/
theorem IsProper.content?_replace (h : c.IsProper) (hfind : find.isEmpty = false) (r : Range)
    (a : Address) :
    (if Sheet.isAffected r find a c then Sheet.replaceCell find new c else c).content? =
      c.content?.map fun c => if Sheet.isAffected r find a c then Sheet.replaceCell find new c
        else c := by
  by_cases hblank : c.IsBlank
  · have hnot : Sheet.isAffected r find a c = false := by
      have hfind' : find ≠ "" := by simpa using hfind
      simp [Sheet.isAffected, hblank.1, Text.occurs, hfind']
    rw [hnot, content?_of_isBlank hblank]
    exact content?_of_isBlank hblank
  · rw [content?_of_not_isBlank hblank, Option.map_some]
    change _ = some (if Sheet.isAffected r find a c then _ else _)
    split
    · refine content?_of_not_isBlank fun hreplaced => hblank ?_
      obtain ⟨-, hnone, hnull⟩ := hreplaced
      have hcomputed := replaceValue_eq_null_iff.1 hnull
      exact ⟨h.text hnone hcomputed, hnone, hcomputed⟩
    · exact content?_of_not_isBlank hblank

end Cell

/-! ## Sheets without styles -/

namespace Clipboard

/-- The clipboard without its styles. -/
def unstyled (c : Clipboard) : Clipboard :=
  { c with cells := c.cells.unstyled }

theorem unstyled_snapshot (g : Grid) (a b : Address) :
    (snapshot g a b).unstyled = snapshot g.unstyled a b := by
  rw [unstyled, snapshot, Grid.unstyled_restrict]
  rfl

theorem destination?_unstyled (c : Clipboard) (target a : Address) :
    c.unstyled.destination? target a = c.destination? target a := rfl

theorem placed_unstyled (c : Clipboard) (target : Address) :
    c.unstyled.placed target = Grid.unstyledEntries (c.placed target) := by
  simp only [placed, destination?_unstyled]
  simp only [unstyled, Grid.unstyled, Std.ExtTreeMap.toList_filterMap, Grid.unstyledEntries,
    List.filterMap_filterMap]
  refine List.filterMap_congr fun entry _ => ?_
  cases hcontent : entry.2.content? <;>
    cases hplace : c.destination? target entry.1 <;>
    simp [hcontent, hplace]

end Clipboard

namespace Grid

variable {g : Grid} {a b : Address}

theorem erase_eq_restrict (g : Grid) (a : Address) : g.erase a = g.restrict fun b => !(b == a) := by
  refine Std.ExtTreeMap.ext_getElem? fun {b} => ?_
  rw [Std.ExtTreeMap.getElem?_erase, getElem?_restrict]
  by_cases hab : b = a
  · simp [hab]
  · simp [hab, Ne.symm hab]

theorem erase_of_notMem (ha : a ∉ g) : g.erase a = g := by
  refine Std.ExtTreeMap.ext_getElem? fun {b} => ?_
  rw [Std.ExtTreeMap.getElem?_erase]
  by_cases hab : b = a
  · simp [hab, Std.ExtTreeMap.getElem?_eq_none ha]
  · simp [Ne.symm hab]

theorem isSettledAt_unstyled :
    g.unstyled.IsSettledAt registry a ↔ g.IsSettledAt registry a := by
  have hvalue : g.unstyled.value = g.value := funext (value_unstyled g)
  simp only [IsSettledAt, formula?_unstyled, graph_unstyled, hvalue]

end Grid

namespace Sheet

variable {s : Sheet} {g : Grid} {a b k : Address} {sources : List Address}

/-- The sheet without its styles. -/
def unstyled (s : Sheet) : Sheet :=
  { s with grid := s.grid.unstyled, clipboard := s.clipboard.map Clipboard.unstyled }

theorem unstyled_of_new {config : Config} (h : Sheet.new config registry = .ok s) :
    s.unstyled = s := by
  obtain ⟨_, -, rfl⟩ := Except.map_eq_ok_iff.1 h
  rfl

theorem unstyled_settle (s : Sheet) (g : Grid) (sources : List Address) :
    (s.settle g sources).unstyled = s.unstyled.settle g.unstyled sources := by
  simp only [settle, unstyled, Grid.unstyled_propagate]

theorem unstyled_recalculate (s : Sheet) : s.recalculate.unstyled = s.unstyled.recalculate := by
  simp only [recalculate, unstyled, Grid.unstyled_recalculate]

theorem unstyled_enter (s : Sheet) (a : Address) (text : String) :
    (s.enter a text).unstyled = s.unstyled.enter a text := by
  change (s.settle (s.grid.enterText s.registry a text) [a]).unstyled =
    s.unstyled.settle (s.unstyled.grid.enterText s.registry a text) [a]
  rw [unstyled_settle, Grid.unstyled_enterText]
  rfl

theorem unstyled_restyle (s : Sheet) (a : Address) (patch : StylePatch) :
    (s.restyle a patch).unstyled = s.unstyled := by
  change unstyled { s with grid := s.grid.restyle a patch } = s.unstyled
  rw [unstyled, Grid.unstyled_restyle]
  rfl

theorem unstyled_copy (s : Sheet) (a b : Address) :
    unstyled { s with clipboard := some (.snapshot s.grid a b) } =
      { s.unstyled with clipboard := some (.snapshot s.unstyled.grid a b) } := by
  simp [unstyled, Clipboard.unstyled_snapshot]

theorem unstyled_withSizes (s : Sheet) (axis : Axis) (sizes : Sizes) :
    (s.withSizes axis sizes).unstyled = s.unstyled.withSizes axis sizes := by
  cases axis <;> rfl

theorem sizes_unstyled (s : Sheet) (axis : Axis) : s.unstyled.sizes axis = s.sizes axis := by
  cases axis <;> rfl

theorem unstyled_insertLine (s : Sheet) (axis : Axis) (i : Coord) :
    (s.insertLine axis i).unstyled = s.unstyled.insertLine axis i := by
  simp only [insertLine, unstyled_recalculate, unstyled_withSizes, sizes_unstyled]
  simp only [unstyled, Grid.unstyled_relocate s.grid (@Axis.makeRoom_injective axis i)]

theorem unstyled_deleteLine (s : Sheet) (axis : Axis) (i : Coord) :
    (s.deleteLine axis i).unstyled = s.unstyled.deleteLine axis i := by
  simp only [deleteLine, unstyled_recalculate, unstyled_withSizes, sizes_unstyled]
  simp only [unstyled, Grid.unstyled_relocate s.grid (@Axis.closeUp_injective axis i)]

/-! ## Edits that handle cells without contents -/

/-- The formula cells that depend on the address have covered formulas and hold the values of
these. -/
structure IsSteadyAt (s : Sheet) (k : Address) : Prop where
  covered : ∀ a ∈ s.grid.graph.dependents [k], ∀ f, s.grid.formula? a = some f →
    Formula.IsCovered s.registry f
  settled : ∀ a ∈ s.grid.graph.dependents [k], s.grid.IsSettledAt s.registry a

theorem IsSteadyAt.unstyled (h : s.IsSteadyAt k) (hs : s.grid.CellsSatisfy Cell.IsProper) :
    ∀ a ∈ s.grid.unstyled.graph.dependents [k], s.grid.unstyled.IsReliableAt s.registry a := by
  intro a ha
  rw [Grid.graph_unstyled] at ha
  refine ⟨fun f hf => ?_, Grid.isSettledAt_unstyled.2 (h.settled a ha)⟩
  rw [Grid.formula?_unstyled] at hf
  obtain ⟨c, hc, hcf⟩ := Grid.exists_of_formula? hf
  exact ⟨(hs a c hc).formula f hcf, h.covered a ha f hf⟩

theorem settle_congr {further : List Address}
    (h : g.propagate s.registry further = g.propagate s.registry sources) :
    s.settle g further = s.settle g sources := by
  rw [settle, settle, h]

/-- The sheet without the cells whose addresses satisfy a test. -/
def removeWhere (s : Sheet) (p : Address → Bool) : Sheet :=
  s.settle (s.grid.restrict fun a => !p a) (s.grid.restrict p).keys

theorem erase_eq_removeWhere (s : Sheet) (a : Address) : s.erase a = s.removeWhere (· == a) := by
  have hmem (b : Address) : b ∈ (s.grid.restrict (· == a)).keys ↔ b = a ∧ a ∈ s.grid := by
    rw [Grid.mem_keys_restrict, beq_iff_eq]
    exact and_congr_right fun h => h ▸ .rfl
  rw [erase, removeWhere, ← Grid.erase_eq_restrict]
  split
  · rename_i ha
    refine settle_congr (Grid.propagate_congr fun b => ?_)
    simp [hmem, Std.ExtTreeMap.contains_iff_mem.1 ha]
  · rename_i ha
    have hnot : a ∉ s.grid := fun h => ha (Std.ExtTreeMap.contains_iff_mem.2 h)
    have hempty (b : Address) : b ∈ (s.grid.restrict (· == a)).keys ↔ b ∈ ([] : List Address) := by
      simp [hmem, hnot]
    rw [Grid.erase_of_notMem hnot, settle, Grid.propagate_congr hempty, Grid.propagate_nil]

/-- Sources that read as if nothing were stored there need not be propagated from. -/
theorem settle_unstyled {further : List Address} (hs : s.grid.CellsSatisfy Cell.IsProper)
    (hgrid : ∀ b, b ∉ sources → s.grid.unstyled[b]? = g[b]?) (hsub : ∀ b ∈ sources, b ∈ further)
    (hfurther : ∀ k ∈ further, k ∉ sources → s.grid.IsBlankAt k ∧ s.IsSteadyAt k) :
    s.unstyled.settle g further = s.unstyled.settle g sources := by
  refine settle_congr (Grid.propagate_eq_of_change hgrid hsub (fun k hk hnot => ?_)
    fun k hk hnot => ?_)
  · rw [Grid.formula?_unstyled, (hfurther k hk hnot).1.2.1]
  · exact (hfurther k hk hnot).2.unstyled hs

/-- Taking cells away, if those without contents make no difference. -/
theorem unstyled_removeWhere {p : Address → Bool} (hs : s.grid.CellsSatisfy Cell.IsProper)
    (hblank : ∀ k c, p k = true → s.grid[k]? = some c → c.IsBlank → s.IsSteadyAt k) :
    (s.removeWhere p).unstyled = s.unstyled.removeWhere p := by
  rw [removeWhere, unstyled_settle, Grid.unstyled_restrict, removeWhere]
  refine settle_unstyled hs Grid.removes_restrict.agree (fun b hb => ?_) fun k hk hnot => ?_
  · obtain ⟨hp, hb⟩ := Grid.mem_keys_restrict.1 hb
    exact Grid.mem_keys_restrict.2 ⟨hp, (Grid.mem_unstyled_iff.1 hb).1⟩
  -- a cell that is taken away on one side only holds no contents
  · obtain ⟨hp, hstored⟩ := Grid.mem_keys_restrict.1 hk
    have hb : s.grid.IsBlankAt k := by_contra fun hb =>
      hnot (Grid.mem_keys_restrict.2 ⟨hp, Grid.mem_unstyled_iff.2 ⟨hstored, hb⟩⟩)
    obtain ⟨c, hc⟩ := Grid.mem_iff_exists.1 hstored
    exact ⟨hb, hblank k c hp hc ((Grid.isBlankAt_iff_of_some hc).1 hb)⟩

theorem unstyled_take (hs : s.grid.CellsSatisfy Cell.IsProper)
    (hblank : ∀ k c, (Range.between a b).contains k = true → s.grid[k]? = some c → c.IsBlank →
      s.IsSteadyAt k) : (s.take a b).unstyled = s.unstyled.take a b := by
  let copied : Sheet := { s with clipboard := some (.snapshot s.grid a b) }
  have hremove : (copied.removeWhere (Range.between a b).contains).unstyled =
      copied.unstyled.removeWhere (Range.between a b).contains :=
    unstyled_removeWhere hs fun k c hk hc hb => ⟨(hblank k c hk hc hb).1, (hblank k c hk hc hb).2⟩
  rw [unstyled_copy] at hremove
  exact hremove

/-- Rows are compared by their texts alone. -/
theorem repeatedRows_congr {h : Grid} {r : Range} (hgh : ∀ a, g.raw a = h.raw a) :
    repeatedRows g r = repeatedRows h r := by
  have hvisit : Survey.visit g r = Survey.visit h r := by
    funext survey row
    have hsignature : signature g r row = signature h r row := List.map_congr_left fun a _ => hgh a
    unfold Survey.visit
    rw [hsignature]
  rw [repeatedRows, hvisit, repeatedRows]

theorem unstyled_eraseRepeated {r : Range} (hs : s.grid.CellsSatisfy Cell.IsProper)
    (hblank : ∀ k c, k.row ∈ repeatedRows s.grid r → s.grid[k]? = some c → c.IsBlank →
      s.IsSteadyAt k) : (s.eraseRepeated r).unstyled = s.unstyled.eraseRepeated r := by
  have hrows : repeatedRows s.unstyled.grid r = repeatedRows s.grid r :=
    repeatedRows_congr (Grid.raw_unstyled s.grid)
  change (s.removeWhere fun k => (repeatedRows s.grid r).contains k.row).unstyled =
    s.unstyled.removeWhere fun k => (repeatedRows s.unstyled.grid r).contains k.row
  rw [hrows]
  exact unstyled_removeWhere hs fun k c hk => hblank k c (List.contains_iff_mem.1 hk)

/-- Writing a block of cells, if those without contents make no difference. -/
theorem unstyled_place {cells : List (Address × Cell)} (hs : s.grid.CellsSatisfy Cell.IsProper)
    (hnodup : (cells.map Prod.fst).Nodup)
    (hblank : ∀ entry ∈ cells, entry.2.IsBlank →
      s.grid.IsBlankAt entry.1 ∧ s.IsSteadyAt entry.1) :
    (s.place cells).unstyled = s.unstyled.place (Grid.unstyledEntries cells) := by
  have hblock : (s.grid.withBlock cells).unstyled =
      s.grid.unstyled.withBlock (Grid.unstyledEntries cells) :=
    Grid.unstyled_withBlock hnodup fun entry he hb => (hblank entry he hb).1
  rw [place_eq_settle, place_eq_settle, unstyled_settle, hblock]
  refine settle_unstyled hs (fun b hb => ?_) (fun b hb => ?_) fun k hk hnot => ?_
  · exact (Grid.getElem?_withBlock_of_notMem hb).symm
  · obtain ⟨entry, he, -, rfl⟩ := Grid.mem_places_unstyledEntries_iff.1 hb
    exact List.mem_map_of_mem he
  · obtain ⟨entry, he, rfl⟩ := List.mem_map.1 hk
    exact hblank entry he (by_contra fun hb =>
      hnot (Grid.mem_places_unstyledEntries_iff.2 ⟨entry, he, hb, rfl⟩))

/-! ## Replacements -/

theorem mem_occurrences_iff {r : Range} {find : String} (hfind : find.isEmpty = false) :
    a ∈ occurrences g r find ↔
      r.contains a = true ∧ Text.occurs find.toList (g.raw a).toList = true := by
  have hfind' : find ≠ "" := by simpa using hfind
  rw [occurrences, Std.ExtTreeMap.mem_keys, Std.ExtTreeMap.mem_iff_isSome_getElem?,
    Std.ExtTreeMap.getElem?_filter', Grid.raw]
  cases g[a]? with
  | none => simp [Text.occurs, hfind']
  | some c => simp [Option.filter_some, isAffected]

theorem unstyled_replaceWithin {find new : String} (hs : s.grid.CellsSatisfy Cell.IsProper)
    (hfind : find.isEmpty = false) (r : Range) :
    (s.replaceWithin r find new).unstyled = s.unstyled.replaceWithin r find new := by
  let replaced (a : Address) (c : Cell) : Cell :=
    if isAffected r find a c then replaceCell find new c else c
  have hgrid : Grid.unstyled (s.grid.map replaced) = s.grid.unstyled.map replaced := by
    refine Std.ExtTreeMap.ext_getElem? fun {a} => ?_
    rw [Grid.getElem?_unstyled, Std.ExtTreeMap.getElem?_map, Std.ExtTreeMap.getElem?_map,
      Grid.getElem?_unstyled]
    cases hc : s.grid[a]? with
    | none => rfl
    | some c => exact (hs a c hc).content?_replace hfind r a
  change (s.settle (s.grid.map replaced) _).unstyled =
    s.unstyled.settle (s.grid.unstyled.map replaced) _
  rw [unstyled_settle, hgrid]
  refine settle_congr (Grid.propagate_congr fun a => ?_)
  rw [mem_occurrences_iff hfind, mem_occurrences_iff hfind]
  simp [unstyled]

end Sheet

end Spreadsheet
