import Mathlib.Data.List.Induction
import Mathlib.Data.List.Nodup
import Mathlib.Tactic.Tauto
import Spreadsheet.Address.Set

/-!
# Addresses without repetitions

* `ComesBefore` compares the first places of two elements of a list. Where a list is put together
  from parts, the first part with either of them decides (`comesBefore_append`,
  `comesBefore_flatMap_iff`).
* `Address.distinct` keeps every address of a list (`Address.mem_distinct`), each once
  (`Address.nodup_distinct`) and in the order of their first places
  (`Address.comesBefore_distinct_iff`).
-/

namespace Spreadsheet

/-! ## First places -/

section ComesBefore

variable {α β : Type*} [DecidableEq α] {l u v : List α} {a b c : α}

/-- The first place of `a` in a list comes before that of `b`. -/
def ComesBefore (l : List α) (a b : α) : Prop :=
  l.idxOf a < l.idxOf b

instance : Decidable (ComesBefore l a b) :=
  inferInstanceAs (Decidable (_ < _))

theorem not_comesBefore_nil : ¬ComesBefore [] a b := by
  simp [ComesBefore]

theorem comesBefore_cons :
    ComesBefore (c :: l) a b ↔ c ≠ b ∧ (c = a ∨ ComesBefore l a b) := by
  unfold ComesBefore
  by_cases hb : c = b
  · simp [hb]
  · by_cases ha : c = a
    · rw [List.idxOf_cons_eq l ha, List.idxOf_cons_ne l hb]
      simp [ha, ha ▸ hb]
    · simp [List.idxOf_cons_ne, ha, hb]

theorem comesBefore_singleton : ComesBefore [c] a b ↔ c ≠ b ∧ c = a := by
  rw [comesBefore_cons, or_iff_left not_comesBefore_nil]

theorem ComesBefore.mem (h : ComesBefore l a b) : a ∈ l := by
  by_contra ha
  rw [ComesBefore, List.idxOf_of_notMem ha] at h
  exact Nat.not_lt.2 List.idxOf_le_length h

theorem ComesBefore.ne (h : ComesBefore l a b) : a ≠ b := by
  rintro rfl
  exact Nat.lt_irrefl _ h

theorem ComesBefore.asymm (h : ComesBefore l a b) : ¬ComesBefore l b a :=
  Nat.lt_asymm h

theorem comesBefore_of_mem_of_notMem (ha : a ∈ l) (hb : b ∉ l) : ComesBefore l a b := by
  rw [ComesBefore, List.idxOf_of_notMem hb]
  exact List.idxOf_lt_length_of_mem ha

/-- Of two elements one comes first. -/
theorem comesBefore_or (ha : a ∈ l) (hne : a ≠ b) : ComesBefore l a b ∨ ComesBefore l b a :=
  Nat.lt_or_gt_of_ne fun h => hne ((List.idxOf_inj ha).1 h)

/-- What comes first in the first part comes first. A later part decides between elements that are
both missing from it. -/
theorem comesBefore_append :
    ComesBefore (u ++ v) a b ↔ ComesBefore u a b ∨ b ∉ u ∧ ComesBefore v a b := by
  induction u with
  | nil => simp [not_comesBefore_nil]
  | cons c u ih =>
    rw [List.cons_append, comesBefore_cons, comesBefore_cons, ih, List.mem_cons]
    tauto

theorem comesBefore_append_of_notMem (ha : a ∉ u) (hb : b ∉ u) :
    ComesBefore (u ++ v) a b ↔ ComesBefore v a b := by
  rw [comesBefore_append, or_iff_right fun h => ha h.mem, and_iff_right hb]

/-- The part of a list in which the first of two elements appears tells them apart. -/
theorem comesBefore_flatMap_iff {f : β → List α} {parts : List β} :
    ComesBefore (parts.flatMap f) a b ↔ ∃ before x after, parts = before ++ x :: after ∧
      a ∉ before.flatMap f ∧ b ∉ before.flatMap f ∧ ComesBefore (f x) a b := by
  constructor
  · intro h
    induction parts with
    | nil => exact absurd h not_comesBefore_nil
    | cons x parts ih =>
      rw [List.flatMap_cons, comesBefore_append] at h
      by_cases hx : ComesBefore (f x) a b
      · exact ⟨[], x, parts, rfl, by simp, by simp, hx⟩
      · obtain ⟨hb, hparts⟩ := h.resolve_left hx
        have ha : a ∉ f x := fun ha => hx (comesBefore_of_mem_of_notMem ha hb)
        obtain ⟨before, y, after, rfl, hbefore⟩ := ih hparts
        refine ⟨x :: before, y, after, rfl, ?_⟩
        simpa [ha, hb] using hbefore
  · rintro ⟨before, x, after, rfl, ha, hb, hx⟩
    rw [List.flatMap_append, comesBefore_append_of_notMem ha hb, List.flatMap_cons,
      comesBefore_append]
    exact .inl hx

/-- Lists that are put together from parts with the same elements have the same order if and only
if what is new in every part has the same order. -/
theorem comesBefore_flatMap_congr_iff {f g : β → List α} {parts : List β}
    (hmem : ∀ x c, c ∈ f x ↔ c ∈ g x) :
    (∀ a b, ComesBefore (parts.flatMap f) a b ↔ ComesBefore (parts.flatMap g) a b) ↔
      ∀ before x after, parts = before ++ x :: after → ∀ a ∉ before.flatMap g,
        ∀ b ∉ before.flatMap g, (ComesBefore (f x) a b ↔ ComesBefore (g x) a b) := by
  have hflat (l : List β) (c : α) : c ∈ l.flatMap f ↔ c ∈ l.flatMap g := by
    simp only [List.mem_flatMap, hmem]
  constructor
  · rintro h before x after rfl a ha b hb
    have hsplit := h a b
    rw [List.flatMap_append, List.flatMap_append, comesBefore_append_of_notMem ha hb,
      comesBefore_append_of_notMem ((hflat _ _).not.2 ha) ((hflat _ _).not.2 hb), List.flatMap_cons,
      List.flatMap_cons, comesBefore_append, comesBefore_append, hmem] at hsplit
    by_cases hbx : b ∈ g x
    · simpa [hbx] using hsplit
    · have hbf := (hmem x b).not.2 hbx
      -- whichever of the two is in this part alone comes first in both lists
      exact ⟨fun hx => comesBefore_of_mem_of_notMem ((hmem x a).1 hx.mem) hbx,
        fun hx => comesBefore_of_mem_of_notMem ((hmem x a).2 hx.mem) hbf⟩
  · intro h a b
    rw [comesBefore_flatMap_iff, comesBefore_flatMap_iff]
    refine exists_congr fun before => exists_congr fun x => exists_congr fun after =>
      and_congr_right fun hparts => ?_
    rw [hflat, hflat]
    exact and_congr_right fun ha => and_congr_right fun hb => h before x after hparts a ha b hb

/-- Lists with the same elements can differ in the order of these elements only. -/
theorem forall_mem_comesBefore_iff (hmem : ∀ c, c ∈ u ↔ c ∈ v) :
    (∀ a ∈ u, ∀ b ∈ u, (ComesBefore u a b ↔ ComesBefore v a b)) ↔
      ∀ a b, ComesBefore u a b ↔ ComesBefore v a b := by
  refine ⟨fun h a b => ?_, fun h a _ b _ => h a b⟩
  by_cases ha : a ∈ u
  · by_cases hb : b ∈ u
    · exact h a ha b hb
    · exact iff_of_true (comesBefore_of_mem_of_notMem ha hb)
        (comesBefore_of_mem_of_notMem ((hmem a).1 ha) ((hmem b).not.1 hb))
  · exact iff_of_false (fun hab => ha hab.mem) fun hab => ha ((hmem a).2 hab.mem)

end ComesBefore

/-! ## Distinct addresses -/

namespace Address

/-- The addresses met so far are those seen. -/
def Encounters.IsConsistent (e : Encounters) : Prop :=
  ∀ a, a ∈ e.seen ↔ a ∈ e.order.toList

theorem Encounters.IsConsistent.toList_meet {e : Encounters} (he : e.IsConsistent) (a : Address) :
    (e.meet a).order.toList =
      if a ∈ e.order.toList then e.order.toList else e.order.toList ++ [a] := by
  rw [Encounters.meet]
  by_cases ha : a ∈ e.seen
  · rw [if_pos ha, if_pos ((he a).1 ha)]
  · rw [if_neg ha, if_neg ((he a).not.1 ha), Array.toList_push]

theorem Encounters.IsConsistent.meet {e : Encounters} (he : e.IsConsistent) (a : Address) :
    (e.meet a).IsConsistent := by
  rw [Encounters.meet]
  split
  · exact he
  · intro b
    rw [Std.ExtTreeSet.mem_insert, Array.toList_push, List.mem_append, List.mem_singleton,
      Std.compare_eq_iff_eq, he b]
    tauto

theorem isConsistent_foldl_meet (addresses : List Address) :
    (addresses.foldl Encounters.meet {}).IsConsistent := by
  induction addresses using List.reverseRecOn with
  | nil => simp [Encounters.IsConsistent]
  | append_singleton addresses a ih =>
    rw [List.foldl_concat]
    exact ih.meet a

@[simp] theorem distinct_nil : distinct [] = [] := rfl

/-- One more address is listed unless it was listed before. -/
theorem distinct_concat (addresses : List Address) (a : Address) :
    distinct (addresses ++ [a]) =
      if a ∈ distinct addresses then distinct addresses else distinct addresses ++ [a] := by
  rw [distinct, List.foldl_concat, (isConsistent_foldl_meet addresses).toList_meet]
  rfl

theorem mem_distinct {addresses : List Address} {a : Address} :
    a ∈ distinct addresses ↔ a ∈ addresses := by
  induction addresses using List.reverseRecOn with
  | nil => rfl
  | append_singleton addresses b ih =>
    rw [distinct_concat, List.mem_append, List.mem_singleton]
    split
    · rename_i hb
      rw [ih, iff_self_or]
      rintro rfl
      exact ih.1 hb
    · rw [List.mem_append, List.mem_singleton, ih]

theorem nodup_distinct (addresses : List Address) : (distinct addresses).Nodup := by
  induction addresses using List.reverseRecOn with
  | nil => exact List.nodup_nil
  | append_singleton addresses a ih =>
    rw [distinct_concat]
    split
    · exact ih
    · rename_i ha
      rw [← List.concat_eq_append]
      exact ih.concat ha

/-- Repetitions do not matter to what comes first. -/
theorem comesBefore_distinct_iff {addresses : List Address} {a b : Address} :
    ComesBefore (distinct addresses) a b ↔ ComesBefore addresses a b := by
  induction addresses using List.reverseRecOn with
  | nil => rfl
  | append_singleton addresses c ih =>
    rw [distinct_concat, comesBefore_append, ← ih]
    split
    · rename_i hc
      rw [iff_self_or, comesBefore_singleton]
      rintro ⟨hb, -, rfl⟩
      exact comesBefore_of_mem_of_notMem hc (mem_distinct.not.2 hb)
    · rw [comesBefore_append, mem_distinct]

end Address

end Spreadsheet
