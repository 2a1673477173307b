import Spreadsheet.Dependency.Cycle
import Spreadsheet.Proofs.Dependency.Path

/-!
# The cycle check is exact

`Graph.walk` passes over cells that it has cleared, so its answer rests on what the cleared cells
and the path stand for: no cycle can be reached from a cleared cell, and every cell on the path
leads on to the cells that are looked at (`walk_spec`). The check at a cell is then exact, with the
formula that is checked in the place of the one that is stored there (`hasCycle_iff`).
-/

namespace Spreadsheet.Graph

open Relation

variable {g remaining : Graph} {path cleared : AddressSet} {a : Address}
  {cells reads : List Address}

/-! ## One step of a walk -/

theorem walk_nil : walk remaining path cleared [] = some cleared := by
  rw [walk]
  rfl

theorem walk_cons_of_mem_path (ha : a ∈ path) :
    walk remaining path cleared (a :: cells) = none := by
  rw [walk, List.foldlM_cons, if_pos ha]
  rfl

theorem walk_cons_of_mem_cleared (hp : a ∉ path) (ha : a ∈ cleared) :
    walk remaining path cleared (a :: cells) = walk remaining path cleared cells := by
  rw [walk, List.foldlM_cons, if_neg hp, if_pos ha, walk]
  rfl

theorem walk_cons_of_getElem?_eq_none (hp : a ∉ path) (hc : a ∉ cleared)
    (ha : remaining[a]? = none) :
    walk remaining path cleared (a :: cells) = walk remaining path cleared cells := by
  rw [walk, List.foldlM_cons, if_neg hp, if_neg hc, walk]
  split
  · rfl
  · simp_all

theorem walk_cons_of_getElem?_eq_some (hp : a ∉ path) (hc : a ∉ cleared)
    (ha : remaining[a]? = some reads) :
    walk remaining path cleared (a :: cells) =
      (walk (remaining.erase a) (path.insert a) cleared reads).bind fun set =>
        walk remaining path (set.insert a) cells := by
  rw [walk, List.foldlM_cons, if_neg hp, if_neg hc]
  split
  · simp_all
  · rename_i reads' ha'
    obtain rfl : reads' = reads := Option.some.inj (ha'.symm.trans ha)
    cases walk (remaining.erase a) (path.insert a) cleared reads' with
    | none => rfl
    | some set => exact (walk.eq_1 remaining path (set.insert a) cells).symm

/-- The formulas off a path that is one cell longer. -/
theorem getElem?_erase_of_agree (hremaining : ∀ b, b ∉ path → remaining[b]? = g[b]?) :
    ∀ b, b ∉ path.insert a → (remaining.erase a)[b]? = g[b]? := by
  intro b hb
  simp only [Std.ExtTreeSet.mem_insert, Std.compare_eq_iff_eq, not_or] at hb
  rw [Std.ExtTreeMap.getElem?_erase, if_neg (by simpa using hb.1), hremaining b hb.2]

/-- What a path that is one formula longer leads to. -/
theorem transGen_of_mem_insert (ha : g[a]? = some reads)
    (hpath : ∀ p ∈ path, TransGen g.Reads p a) :
    ∀ p ∈ path.insert a, ∀ b ∈ reads, TransGen g.Reads p b := by
  intro p hp b hb
  have hab : g.Reads a b := (reads_iff ha).2 hb
  rcases Std.ExtTreeSet.mem_insert.1 hp with hap | hp
  · obtain rfl : a = p := Std.LawfulEqOrd.eq_of_compare hap
    exact .single hab
  · exact (hpath p hp).tail hab

/-! ## What a walk finds -/

/-- What the answer of a walk through `g` says about the cells that it looked at. -/
def WalkAnswer (g : Graph) (cells : List Address) : Option AddressSet → Prop
  | none => ∃ a ∈ cells, g.LeadsToCycle a
  | some cleared => (∀ a ∈ cleared, ¬g.LeadsToCycle a) ∧ ∀ a ∈ cells, ¬g.LeadsToCycle a

/-- The answer stays true with one more cell in front from which no cycle can be reached. -/
theorem WalkAnswer.cons {answer : Option AddressSet} (ha : ¬g.LeadsToCycle a)
    (h : g.WalkAnswer cells answer) : g.WalkAnswer (a :: cells) answer := by
  cases answer with
  | none =>
    obtain ⟨b, hb, hcycle⟩ := h
    exact ⟨b, List.mem_cons_of_mem _ hb, hcycle⟩
  | some cleared => exact ⟨h.1, List.forall_mem_cons.2 ⟨ha, h.2⟩⟩

/-- **A walk answers truly** for the graph `g` of which `remaining` is the part off the path. -/
theorem walk_spec (g : Graph) (remaining : Graph) (path cleared : AddressSet)
    (cells : List Address) (hremaining : ∀ a, a ∉ path → remaining[a]? = g[a]?)
    (hcleared : ∀ a ∈ cleared, ¬g.LeadsToCycle a)
    (hpath : ∀ p ∈ path, ∀ a ∈ cells, TransGen g.Reads p a) :
    g.WalkAnswer cells (walk remaining path cleared cells) := by
  induction remaining, path, cleared, cells using walk.induct with
  | case1 remaining path cleared cells ih =>
    -- the walk along the list of cells, with the walks into formulas known
    induction cells generalizing cleared with
    | nil =>
      rw [walk_nil]
      exact ⟨hcleared, by simp⟩
    | cons a cells ihcells =>
      have hrest : ∀ p ∈ path, ∀ b ∈ cells, TransGen g.Reads p b :=
        fun p hp b hb => hpath p hp b (List.mem_cons_of_mem _ hb)
      by_cases hp : a ∈ path
      · rw [walk_cons_of_mem_path hp]
        exact ⟨a, by simp, leadsToCycle_of_transGen (hpath a hp a (by simp))⟩
      by_cases hc : a ∈ cleared
      · rw [walk_cons_of_mem_cleared hp hc]
        exact (ihcells cleared hcleared hrest).cons (hcleared a hc)
      cases ha : remaining[a]? with
      | none =>
        rw [walk_cons_of_getElem?_eq_none hp hc ha]
        refine (ihcells cleared hcleared hrest).cons fun hcycle => ?_
        obtain ⟨b, ⟨reads, hreads, -⟩, -⟩ := hcycle.exists_reads
        rw [← hremaining a hp, ha] at hreads
        cases hreads
      | some reads =>
        have hga : g[a]? = some reads := by rw [← hremaining a hp, ha]
        have inner := ih cleared a reads ha (getElem?_erase_of_agree hremaining) hcleared
          (transGen_of_mem_insert hga fun p hp => hpath p hp a (by simp))
        rw [walk_cons_of_getElem?_eq_some hp hc ha]
        cases hinner : walk (remaining.erase a) (path.insert a) cleared reads with
        | none =>
          rw [hinner] at inner
          obtain ⟨b, hb, hcycle⟩ := inner
          exact ⟨a, by simp, hcycle.of_reads ((reads_iff hga).2 hb)⟩
        | some set =>
          rw [hinner] at inner
          have hclear : ¬g.LeadsToCycle a := fun hcycle => by
            obtain ⟨b, hab, hb⟩ := hcycle.exists_reads
            exact inner.2 b ((reads_iff hga).1 hab) hb
          refine (ihcells (set.insert a) (fun b hb => ?_) hrest).cons hclear
          rcases Std.ExtTreeSet.mem_insert.1 hb with hab | hb
          · obtain rfl : a = b := Std.LawfulEqOrd.eq_of_compare hab
            exact hclear
          · exact inner.1 b hb

/-- **The cycle check is exact**: it looks at the graph with the checked formula in its place. -/
theorem hasCycle_iff : g.hasCycle a reads = true ↔ LeadsToCycle (g.insert a reads) a := by
  have hreads : (g.insert a reads)[a]? = some reads := Std.ExtTreeMap.getElem?_insert_self
  have answer := walk_spec (g.insert a reads) (g.erase a) {a} ∅ reads ?_ (by simp) ?_
  · rw [hasCycle, leadsToCycle_iff]
    cases hwalk : walk (g.erase a) {a} ∅ reads with
    | none =>
      rw [hwalk] at answer
      obtain ⟨b, hb, hcycle⟩ := answer
      exact iff_of_true rfl ⟨b, (reads_iff hreads).2 hb, hcycle⟩
    | some set =>
      rw [hwalk] at answer
      refine iff_of_false (by simp) ?_
      rintro ⟨b, hab, hb⟩
      exact answer.2 b ((reads_iff hreads).1 hab) hb
  · intro b hb
    have hba : a ≠ b := fun h => hb (by simp [h])
    simp [Std.ExtTreeMap.getElem?_erase, Std.ExtTreeMap.getElem?_insert, hba]
  · intro p hp b hb
    obtain rfl : a = p := by simpa using hp
    exact .single ((reads_iff hreads).2 hb)

/-- The check of a formula that is stored. -/
theorem hasCycle_iff_of_getElem? (h : g[a]? = some reads) :
    g.hasCycle a reads = true ↔ g.LeadsToCycle a := by
  have hg : g.insert a reads = g := by
    refine Std.ExtTreeMap.ext_getElem? fun b => ?_
    by_cases hab : a = b
    · simp [← hab, h]
    · simp [Std.ExtTreeMap.getElem?_insert, hab]
  rw [hasCycle_iff, hg]

end Spreadsheet.Graph
