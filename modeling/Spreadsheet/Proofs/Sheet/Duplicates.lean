import Mathlib.Data.List.Dedup
import Spreadsheet.Proofs.Range
import Spreadsheet.Proofs.Recalculation.Restoration
import Spreadsheet.Sheet.Edit

/-!
# Which rows count as duplicates

* `Sheet.IsRepeated` says that a row of a range has the texts of an earlier one. The survey of a
  range finds exactly these rows (`Sheet.mem_repeatedRows_iff`), so that there are as many of them
  as rows less different sequences of texts (`Sheet.length_repeatedRows`).
* `Sheet.removeDuplicates_keeps_first`: their cells are removed, and no others.
* `Sheet.removeDuplicates_again`: the rows that were emptied count as rows without texts when
  duplicates are removed once more. This is the only way in which a second call can remove
  anything, and a third call removes nothing.
-/

namespace Spreadsheet.Sheet

variable {g h : Grid} {r : Range} {rows more : List Coord} {row earlier : Coord} {survey : Survey}
  {s t : Sheet} {k a b : Address} {first last : String}

/-! ## The survey -/

/-- A row of a range has the same texts in the range's columns as an earlier one. -/
def IsRepeated (g : Grid) (r : Range) (row : Coord) : Prop :=
  r.HasRow row ∧ ∃ earlier < row, r.HasRow earlier ∧ signature g r earlier = signature g r row

/-- One of some rows comes before another row and has the same texts. -/
def HasEarlier (g : Grid) (r : Range) (rows : List Coord) (row : Coord) : Prop :=
  ∃ earlier ∈ rows, earlier < row ∧ signature g r earlier = signature g r row

/-- A row behind another one is not earlier than it. -/
theorem hasEarlier_append_of_lt (hrow : earlier < row) :
    HasEarlier g r (rows ++ [row]) earlier ↔ HasEarlier g r rows earlier := by
  simp [HasEarlier, or_and_right, exists_or, Fin.not_lt.2 (Fin.le_of_lt hrow)]

/-- A row behind all others has an earlier one if its texts are among theirs. -/
theorem hasEarlier_append_self (hrow : ∀ x ∈ rows, x < row) :
    HasEarlier g r (rows ++ [row]) row ↔ signature g r row ∈ rows.map (signature g r) := by
  rw [HasEarlier, List.mem_map]
  constructor
  · rintro ⟨x, hx, hlt, hkey⟩
    rcases List.mem_append.1 hx with hx | hx
    · exact ⟨x, hx, hkey⟩
    · rw [List.mem_singleton.1 hx] at hlt
      exact absurd hlt (Fin.lt_irrefl row)
  · rintro ⟨x, hx, hkey⟩
    exact ⟨x, List.mem_append_left _ hx, hrow x hx, hkey⟩

/-- What a survey has found on some rows that it has visited from the first to the last. -/
structure Survey.Covers (g : Grid) (r : Range) (rows : List Coord) (s : Survey) : Prop where
  mem_signatures_iff (key : List String) : key ∈ s.signatures ↔ key ∈ rows.map (signature g r)
  nodup_signatures : s.signatures.Nodup
  mem_repeated_iff (row : Coord) : row ∈ s.repeated ↔ row ∈ rows ∧ HasEarlier g r rows row
  length_add : s.repeated.length + s.signatures.length = rows.length

theorem Survey.covers_nil : Covers g r [] {} where
  mem_signatures_iff _ := .rfl
  nodup_signatures := List.nodup_nil
  mem_repeated_iff _ := by simp
  length_add := rfl

/-- Visiting one more row behind all others. -/
theorem Survey.Covers.visit (hs : survey.Covers g r rows) (hrow : ∀ x ∈ rows, x < row) :
    (survey.visit g r row).Covers g r (rows ++ [row]) := by
  have hnot : row ∉ rows := fun hmem => Fin.lt_irrefl row (hrow row hmem)
  have hself : HasEarlier g r (rows ++ [row]) row ↔ signature g r row ∈ survey.signatures := by
    rw [hasEarlier_append_self hrow, hs.mem_signatures_iff]
  have hmem (x : Coord) : x ∈ rows ++ [row] ∧ HasEarlier g r (rows ++ [row]) x ↔
      x ∈ survey.repeated ∨ x = row ∧ signature g r row ∈ survey.signatures := by
    rw [hs.mem_repeated_iff, List.mem_append, List.mem_singleton, or_and_right]
    refine or_congr (and_congr_right fun hx => hasEarlier_append_of_lt (hrow x hx))
      (and_congr_right fun hx => ?_)
    rw [hx, hself]
  have hlength := hs.length_add
  by_cases hseen : signature g r row ∈ survey.signatures
  · have hvisit : survey.visit g r row = { survey with repeated := row :: survey.repeated } :=
      if_pos (List.contains_iff_mem.2 hseen)
    rw [hvisit]
    refine ⟨fun key => ?_, hs.nodup_signatures, fun x => ?_, ?_⟩
    · rw [hs.mem_signatures_iff, List.map_append, List.mem_append]
      refine ⟨.inl, fun hkey => hkey.elim id fun hkey => ?_⟩
      rw [List.mem_singleton.1 hkey]
      exact (hs.mem_signatures_iff _).1 hseen
    · rw [hmem, List.mem_cons, or_comm]
      exact or_congr_right (iff_self_and.2 fun _ => hseen)
    · simp only [List.length_cons, List.length_append, List.length_nil]
      omega
  · have hvisit : survey.visit g r row =
        { survey with signatures := signature g r row :: survey.signatures } :=
      if_neg (by simpa using hseen)
    rw [hvisit]
    refine ⟨fun key => ?_, List.nodup_cons.2 ⟨hseen, hs.nodup_signatures⟩, fun x => ?_, ?_⟩
    · rw [List.mem_cons, hs.mem_signatures_iff, List.map_append, List.mem_append, or_comm]
      exact or_congr_right List.mem_singleton.symm
    · rw [hmem]
      exact (or_iff_left fun h => hseen h.2).symm
    · simp only [List.length_cons, List.length_append, List.length_nil]
      omega

/-- Visiting rows in their order. -/
theorem Survey.Covers.foldl (hs : survey.Covers g r rows)
    (hmore : (rows ++ more).Pairwise (· < ·)) :
    (more.foldl (Survey.visit g r) survey).Covers g r (rows ++ more) := by
  induction more generalizing rows survey with
  | nil => rwa [List.append_nil]
  | cons row more ih =>
    rw [List.append_cons] at hmore ⊢
    have hrows := (List.pairwise_append.1 (List.pairwise_append.1 hmore).1).2.2
    exact ih (hs.visit fun x hx => hrows x hx row (List.mem_singleton_self row)) hmore

theorem covers_rowCoords (g : Grid) (r : Range) :
    (r.rowCoords.foldl (Survey.visit g r) {}).Covers g r r.rowCoords :=
  Survey.covers_nil.foldl r.pairwise_rowCoords

/-- **The survey of a range** finds the rows that repeat an earlier one. -/
theorem mem_repeatedRows_iff : row ∈ repeatedRows g r ↔ IsRepeated g r row := by
  rw [repeatedRows, (covers_rowCoords g r).mem_repeated_iff, IsRepeated, HasEarlier]
  simp only [Range.mem_rowCoords_iff]
  exact and_congr_right fun _ => exists_congr fun earlier =>
    ⟨fun ⟨hmem, hlt, hkey⟩ => ⟨hlt, hmem, hkey⟩, fun ⟨hlt, hmem, hkey⟩ => ⟨hmem, hlt, hkey⟩⟩

instance : Decidable (IsRepeated g r row) :=
  decidable_of_iff _ mem_repeatedRows_iff

/-- What is stored after the repeated rows were emptied, computed values apart. -/
theorem map_uncomputed_eraseRepeated :
    (s.eraseRepeated r).grid[k]?.map Cell.uncomputed =
      if IsRepeated s.grid r k.row then none else s.grid[k]?.map Cell.uncomputed := by
  let kept := s.grid.restrict fun k => !(repeatedRows s.grid r).contains k.row
  have hkept : (s.eraseRepeated r).grid[k]?.map Cell.uncomputed = kept[k]?.map Cell.uncomputed :=
    (Grid.SameEntries.refl kept).propagate k
  rw [hkept, Grid.getElem?_restrict]
  by_cases hk : IsRepeated s.grid r k.row
  · simp [hk, mem_repeatedRows_iff.2 hk]
  · simp [hk, mt mem_repeatedRows_iff.1 hk]

theorem mem_eraseRepeated_iff :
    k ∈ (s.eraseRepeated r).grid ↔ k ∈ s.grid ∧ ¬IsRepeated s.grid r k.row := by
  rw [Std.ExtTreeMap.mem_iff_isSome_getElem?, ← Option.isSome_map (f := Cell.uncomputed),
    map_uncomputed_eraseRepeated, Std.ExtTreeMap.mem_iff_isSome_getElem?]
  by_cases hk : IsRepeated s.grid r k.row <;> simp [hk]

theorem removeDuplicates_eq (ha : Address.ofText first = .ok a) (hb : Address.ofText last = .ok b)
    (s : Sheet) :
    s.removeDuplicates first last =
      .ok ((repeatedRows s.grid (.between a b)).length, s.eraseRepeated (.between a b)) := by
  rw [removeDuplicates, rangeBetween, ha, hb]
  rfl

/-- A row of a range without texts in the range's columns. -/
def IsTextless (g : Grid) (r : Range) (row : Coord) : Prop :=
  r.HasRow row ∧ ∀ a ∈ r.rowCells row, g.raw a = ""

theorem signature_eq_replicate_iff :
    signature g r row = List.replicate r.columns "" ↔ ∀ a ∈ r.rowCells row, g.raw a = "" := by
  simp [signature, List.eq_replicate_iff, Range.length_rowCells]

theorem row_of_mem_rowCells (ha : a ∈ r.rowCells row) : a.row = row := by
  obtain ⟨_, -, rfl⟩ := List.mem_map.1 ha
  rfl

theorem raw_eraseRepeated :
    (s.eraseRepeated r).grid.raw k =
      if IsRepeated s.grid r k.row then "" else s.grid.raw k := by
  have hraw (g : Grid) : g.raw k = ((g[k]?.map Cell.uncomputed).map Cell.raw).getD "" := by
    rw [Grid.raw]
    cases g[k]? <;> rfl
  rw [hraw, hraw, map_uncomputed_eraseRepeated]
  split <;> rfl

/-- The texts of a row are gone if it was emptied, and what they were otherwise. -/
theorem signature_eraseRepeated_of_isRepeated (hrow : IsRepeated s.grid r row) :
    signature (s.eraseRepeated r).grid r row = List.replicate r.columns "" := by
  refine signature_eq_replicate_iff.2 fun a ha => ?_
  rw [raw_eraseRepeated, if_pos (row_of_mem_rowCells ha ▸ hrow)]

theorem signature_eraseRepeated (hrow : ¬IsRepeated s.grid r row) :
    signature (s.eraseRepeated r).grid r row = signature s.grid r row := by
  refine List.map_congr_left fun a ha => ?_
  rw [raw_eraseRepeated, if_neg (row_of_mem_rowCells ha ▸ hrow)]

/-- A row that was kept repeats an earlier one afterwards if it has no texts and comes behind a row
that was emptied. -/
theorem isRepeated_eraseRepeated_iff (hrow : ¬IsRepeated s.grid r row) :
    IsRepeated (s.eraseRepeated r).grid r row ↔
      IsTextless s.grid r row ∧ ∃ earlier < row, IsRepeated s.grid r earlier := by
  have hkey := signature_eraseRepeated hrow
  constructor
  · rintro ⟨hmem, earlier, hlt, hearlier, hsame⟩
    rw [hkey] at hsame
    -- the earlier row was emptied, since it did not have the same texts before
    have hrepeated : IsRepeated s.grid r earlier := by
      by_contra hnot
      exact hrow ⟨hmem, earlier, hlt, hearlier, signature_eraseRepeated hnot ▸ hsame⟩
    rw [signature_eraseRepeated_of_isRepeated hrepeated] at hsame
    exact ⟨⟨hmem, signature_eq_replicate_iff.1 hsame.symm⟩, earlier, hlt, hrepeated⟩
  · rintro ⟨⟨hmem, hblank⟩, earlier, hlt, hrepeated⟩
    refine ⟨hmem, earlier, hlt, hrepeated.1, ?_⟩
    rw [hkey, signature_eraseRepeated_of_isRepeated hrepeated,
      signature_eq_replicate_iff.2 hblank]

/-- Rows that still repeat an earlier one have no texts. -/
theorem IsRepeated.isTextless_eraseRepeated (hrow : IsRepeated (s.eraseRepeated r).grid r row) :
    IsTextless (s.eraseRepeated r).grid r row := by
  refine ⟨hrow.1, signature_eq_replicate_iff.1 ?_⟩
  by_cases hbefore : IsRepeated s.grid r row
  · exact signature_eraseRepeated_of_isRepeated hbefore
  · rw [signature_eraseRepeated hbefore]
    exact signature_eq_replicate_iff.2 ((isRepeated_eraseRepeated_iff hbefore).1 hrow).1.2

/-- What a second removal takes away. -/
theorem mem_eraseRepeated_again_iff :
    k ∈ ((s.eraseRepeated r).eraseRepeated r).grid ↔ k ∈ (s.eraseRepeated r).grid ∧
      ¬(IsTextless s.grid r k.row ∧ ∃ earlier < k.row, IsRepeated s.grid r earlier) := by
  rw [mem_eraseRepeated_iff]
  refine and_congr_right fun hk => not_congr (isRepeated_eraseRepeated_iff ?_)
  exact (mem_eraseRepeated_iff.1 hk).2

/-- A third removal takes nothing away. -/
theorem mem_eraseRepeated_third_iff :
    k ∈ (((s.eraseRepeated r).eraseRepeated r).eraseRepeated r).grid ↔
      k ∈ ((s.eraseRepeated r).eraseRepeated r).grid := by
  rw [mem_eraseRepeated_again_iff, and_iff_left_iff_imp]
  rintro hk ⟨⟨hmem, hblank⟩, earlier, hlt, hrepeated⟩
  -- the rows without texts behind the first one were all emptied by the second removal
  refine (mem_eraseRepeated_iff.1 hk).2 ⟨hmem, earlier, hlt, hrepeated.1, ?_⟩
  rw [signature_eq_replicate_iff.2 hrepeated.isTextless_eraseRepeated.2,
    signature_eq_replicate_iff.2 hblank]

/-- **Removing duplicates again** takes away the cells on those rows of the range without texts
that come behind a row that counted as a duplicate the first time. From then on nothing more is
taken away. -/
theorem removeDuplicates_again (ha : Address.ofText first = .ok a)
    (hb : Address.ofText last = .ok b) :
    ∃ n t m u l v, s.removeDuplicates first last = .ok (n, t) ∧
      t.removeDuplicates first last = .ok (m, u) ∧ u.removeDuplicates first last = .ok (l, v) ∧
      (∀ k, k ∈ u.grid ↔ k ∈ t.grid ∧ ¬(IsTextless s.grid (.between a b) k.row ∧
        ∃ earlier < k.row, IsRepeated s.grid (.between a b) earlier)) ∧
      ∀ k, k ∈ v.grid ↔ k ∈ u.grid :=
  ⟨_, _, _, _, _, _, removeDuplicates_eq ha hb s, removeDuplicates_eq ha hb _,
    removeDuplicates_eq ha hb _, fun _ => mem_eraseRepeated_again_iff,
    fun _ => mem_eraseRepeated_third_iff⟩

/-- The second of three rows repeats the first one, and no row without texts follows it. -/
theorem removeDuplicates_again_of_three :
    let s := (Sheet.blank {} .builtin).run
      [.setText "A1" "x", .setText "A2" "x", .setText "B3" "z"]
    ∃ n t m u, s.removeDuplicates "A1" "B3" = .ok (n, t) ∧
      t.removeDuplicates "A1" "B3" = .ok (m, u) ∧ n = 1 ∧ ∀ k, k ∈ u.grid ↔ k ∈ t.grid := by
  intro s
  let r := Range.between ⟨0, 0⟩ ⟨2, 1⟩
  obtain ⟨n, t, m, u, -, -, hfirst, hsecond, -, hu, -⟩ :=
    @removeDuplicates_again s ⟨0, 0⟩ ⟨2, 1⟩ "A1" "B3" (by decide +kernel) (by decide +kernel)
  have hcount : (s.removeDuplicates "A1" "B3").map Prod.fst = .ok 1 := by decide +kernel
  rw [hfirst] at hcount
  have hrows : r.rowCoords.map (signature s.grid r) = [["x", ""], ["x", ""], ["", "z"]] := by
    decide +kernel
  refine ⟨n, t, m, u, hfirst, hsecond, Except.ok.inj hcount, fun k => (hu k).trans ?_⟩
  refine and_iff_left fun ⟨⟨hmem, hblank⟩, _⟩ => ?_
  have hkey : signature s.grid r k.row ∈ r.rowCoords.map (signature s.grid r) :=
    List.mem_map_of_mem (Range.mem_rowCoords_iff.2 hmem)
  rw [hrows, signature_eq_replicate_iff.2 hblank] at hkey
  exact absurd hkey (by decide)

/-- The emptied row has the same texts as the row below it, which holds a cell beyond the range. -/
theorem removeDuplicates_again_takes :
    let s := (Sheet.blank {} .builtin).run
      [.setText "A1" "x", .setText "A2" "x", .setText "D3" "z"]
    ∃ t u, s.removeDuplicates "A1" "B3" = .ok (1, t) ∧
      t.removeDuplicates "A1" "B3" = .ok (1, u) ∧ ⟨2, 3⟩ ∈ t.grid ∧ ⟨2, 3⟩ ∉ u.grid := by
  intro s
  let r := Range.between ⟨0, 0⟩ ⟨2, 1⟩
  have hfirst : (repeatedRows s.grid r).length = 1 := by decide +kernel
  have hsecond : (repeatedRows (s.eraseRepeated r).grid r).length = 1 := by decide +kernel
  have heq := @removeDuplicates_eq ⟨0, 0⟩ ⟨2, 1⟩ "A1" "B3" (by decide +kernel) (by decide +kernel)
  refine ⟨s.eraseRepeated r, (s.eraseRepeated r).eraseRepeated r, ?_, ?_, by decide +kernel,
    by decide +kernel⟩
  · rw [heq, hfirst]
  · rw [heq, hsecond]

end Spreadsheet.Sheet
