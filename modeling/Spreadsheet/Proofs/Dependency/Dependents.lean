import Spreadsheet.Proofs.Dependency.Path

/-!
# The dependents of a change

The dependents of some sources are the cells outside the sources from which a path of formulas
leads to a source (`mem_dependents_iff`). The collection leaves out the sources and all paths
through them; nothing is lost by this, since a path to a source has a part that ends at the first
source that it meets.
-/

namespace Spreadsheet.Graph

open Relation

variable {g readers remaining : Graph} {a b x reader : Address} {cells frontier : List Address}

/-! ## Turning the graph around -/

theorem mem_addReader (g : Graph) :
    x ∈ (g.addReader reader cells).getD a [] ↔ x ∈ g.getD a [] ∨ x = reader ∧ a ∈ cells := by
  unfold addReader
  induction cells generalizing g with
  | nil => simp
  | cons b cells ih =>
    rw [List.foldl_cons, ih, Std.ExtTreeMap.getD_insert]
    by_cases hb : b = a
    · subst hb
      simp only [Std.compare_self, if_pos, List.mem_cons]
      tauto
    · simp [hb, Ne.symm hb]

/-- The readers of a cell are the formula cells that read it. -/
theorem mem_readers : b ∈ g.readers.getD a [] ↔ g.Reads b a := by
  have hfold : ∀ (entries : List (Address × List Address)) (turned : Graph),
      b ∈ (entries.foldl (fun t e => t.addReader e.1 e.2) turned).getD a [] ↔
        b ∈ turned.getD a [] ∨ ∃ e ∈ entries, b = e.1 ∧ a ∈ e.2 := by
    intro entries
    induction entries with
    | nil => simp
    | cons e entries ih =>
      intro turned
      rw [List.foldl_cons, ih, mem_addReader, or_assoc]
      simp
  rw [readers, Std.ExtTreeMap.foldl_eq_foldl_toList, hfold]
  simp only [Std.ExtTreeMap.getD_empty, List.not_mem_nil, false_or, Reads]
  constructor
  · rintro ⟨⟨k, cells⟩, he, rfl, ha⟩
    exact ⟨cells, Std.ExtTreeMap.mem_toList_iff_getElem?_eq_some.1 he, ha⟩
  · rintro ⟨cells, hcells, ha⟩
    exact ⟨(b, cells), Std.ExtTreeMap.mem_toList_iff_getElem?_eq_some.2 hcells, rfl, ha⟩

/-! ## Collecting along the readers -/

theorem mem_erase_iff : b ∈ g.erase a ↔ a ≠ b ∧ b ∈ g := by
  rw [Std.ExtTreeMap.mem_erase, Ne, Ne, Std.compare_eq_iff_eq]

/-- The cells before the first member of a graph are no members. -/
theorem mem_fromMember (ha : a ∈ frontier) (hg : a ∈ g) : a ∈ g.fromMember frontier := by
  unfold fromMember
  induction frontier with
  | nil => cases ha
  | cons b frontier ih =>
    rw [List.dropWhile_cons]
    split
    · rename_i hb
      refine ih ((List.mem_cons.1 ha).resolve_left fun hab => ?_)
      simp [← hab, Std.ExtTreeMap.contains_iff_mem.2 hg] at hb
    · exact ha

theorem reached_nil (h : remaining.fromMember frontier = []) :
    reached readers remaining frontier = [] := by
  rw [reached]
  split
  · rfl
  · simp_all

theorem reached_cons {rest : List Address} (h : remaining.fromMember frontier = a :: rest) :
    reached readers remaining frontier =
      a :: reached readers (remaining.erase a) (readers.getD a [] ++ rest) := by
  rw [reached]
  split
  · simp_all
  · rename_i b rest' h'
    obtain ⟨rfl, rfl⟩ := List.cons.inj (h.symm.trans h')
    rfl

/-- What holds of the frontier and passes on to readers holds of all that is reached. -/
theorem reached_induction {P : Address → Prop} (readers remaining : Graph)
    (frontier : List Address) (hfrontier : ∀ a ∈ frontier, a ∈ remaining → P a)
    (hreaders : ∀ a, P a → ∀ b ∈ readers.getD a [], b ∈ remaining → P b) :
    ∀ a ∈ reached readers remaining frontier, P a := by
  induction remaining, frontier using reached.induct readers with
  | case1 remaining frontier h => simp [reached_nil h]
  | case2 remaining frontier a rest h ih =>
    have hsub : ∀ b ∈ a :: rest, b ∈ frontier := fun b hb =>
      (List.dropWhile_sublist _).subset (h ▸ hb : b ∈ remaining.fromMember frontier)
    have hPa : P a := hfrontier a (hsub a (by simp)) (mem_of_fromMember h)
    rw [reached_cons h]
    refine List.forall_mem_cons.2 ⟨hPa, ih (fun b hb hmem => ?_) fun b hb c hc hmem => ?_⟩
    · rcases List.mem_append.1 hb with hb | hb
      · exact hreaders a hPa b hb (mem_erase_iff.1 hmem).2
      · exact hfrontier b (hsub b (List.mem_cons_of_mem _ hb)) (mem_erase_iff.1 hmem).2
    · exact hreaders b hb c hc (mem_erase_iff.1 hmem).2

/-- The cells that are reached hold the frontier and the readers of all their cells, as far as they
remain. -/
theorem reached_closed (readers remaining : Graph) (frontier : List Address) :
    (∀ a ∈ frontier, a ∈ remaining → a ∈ reached readers remaining frontier) ∧
      ∀ a ∈ reached readers remaining frontier, ∀ b ∈ readers.getD a [], b ∈ remaining →
        b ∈ reached readers remaining frontier := by
  induction remaining, frontier using reached.induct readers with
  | case1 remaining frontier h =>
    rw [reached_nil h]
    refine ⟨fun a ha hmem => ?_, by simp⟩
    simpa [h] using mem_fromMember ha hmem
  | case2 remaining frontier a rest h ih =>
    rw [reached_cons h]
    obtain ⟨ihfrontier, ihreaders⟩ := ih
    -- a cell other than `a` remains when `a` is taken out
    have hfound : ∀ b ∈ readers.getD a [] ++ rest, b ∈ remaining →
        b ∈ a :: reached readers (remaining.erase a) (readers.getD a [] ++ rest) := by
      intro b hb hmem
      by_cases hab : a = b
      · simp [hab]
      · exact List.mem_cons_of_mem _ (ihfrontier b hb (mem_erase_iff.2 ⟨hab, hmem⟩))
    constructor
    · intro b hb hmem
      rcases List.mem_cons.1 (h ▸ mem_fromMember hb hmem) with rfl | hb
      · simp
      · exact hfound b (List.mem_append_right _ hb) hmem
    · intro b hb c hc hmem
      rcases List.mem_cons.1 hb with rfl | hb
      · exact hfound c (List.mem_append_left _ hc) hmem
      · by_cases hac : a = c
        · simp [hac]
        · exact List.mem_cons_of_mem _ (ihreaders b hb c hc (mem_erase_iff.2 ⟨hac, hmem⟩))

/-! ## The dependents -/

theorem mem_foldl_erase (sources : List Address) :
    b ∈ sources.foldl (fun g a => g.erase a) g ↔ b ∉ sources ∧ b ∈ g := by
  induction sources generalizing g with
  | nil => simp
  | cons a sources ih =>
    rw [List.foldl_cons, ih, mem_erase_iff, List.mem_cons]
    tauto

/-- **The dependents** of some sources are the other cells from which a source is reached. -/
theorem mem_dependents_iff {sources : List Address} :
    b ∈ g.dependents sources ↔ b ∉ sources ∧ ∃ s ∈ sources, TransGen g.Reads b s := by
  have hremaining {a : Address} : a ∈ sources.foldl (fun g a => g.erase a) g ↔
      a ∉ sources ∧ a ∈ g := mem_foldl_erase sources
  have hfrontier {a : Address} : a ∈ sources.flatMap (fun a => g.readers.getD a []) ↔
      ∃ s ∈ sources, g.Reads a s := by simp only [List.mem_flatMap, mem_readers]
  unfold dependents
  constructor
  · intro hb
    refine reached_induction (P := fun b => b ∉ sources ∧ ∃ s ∈ sources, TransGen g.Reads b s)
      _ _ _ ?_ ?_ b hb
    · intro a ha hmem
      obtain ⟨s, hs, has⟩ := hfrontier.1 ha
      exact ⟨(hremaining.1 hmem).1, s, hs, .single has⟩
    · rintro a ⟨-, s, hs, has⟩ b hb hmem
      exact ⟨(hremaining.1 hmem).1, s, hs, .head (mem_readers.1 hb) has⟩
  · rintro ⟨hb, s, hs, hbs⟩
    obtain ⟨hstart, hclosed⟩ := reached_closed g.readers
      (sources.foldl (fun g a => g.erase a) g) (sources.flatMap fun a => g.readers.getD a [])
    induction hbs using TransGen.head_induction_on with
    | single hbs => exact hstart _ (hfrontier.2 ⟨s, hs, hbs⟩) (hremaining.2 ⟨hb, hbs.mem⟩)
    | @head b c hbc _ ih =>
      by_cases hc : c ∈ sources
      · exact hstart b (hfrontier.2 ⟨c, hc, hbc⟩) (hremaining.2 ⟨hb, hbc.mem⟩)
      · exact hclosed c (ih hc) b (mem_readers.2 hbc) (hremaining.2 ⟨hb, hbc.mem⟩)

/-- More edges make for more dependents. -/
theorem dependents_mono {h : Graph} {sources : List Address}
    (hgh : ∀ x y, g.Reads x y → h.Reads x y) (hb : b ∈ g.dependents sources) :
    b ∈ h.dependents sources := by
  obtain ⟨hb, s, hs, hbs⟩ := mem_dependents_iff.1 hb
  exact mem_dependents_iff.2 ⟨hb, s, hs, TransGen.mono hgh _ _ hbs⟩

end Spreadsheet.Graph
