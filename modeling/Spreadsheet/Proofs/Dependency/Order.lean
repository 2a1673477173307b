import Mathlib.Data.List.Nodup
import Spreadsheet.Dependency.Order
import Spreadsheet.Proofs.Dependency.Dependents

/-!
# The order of evaluation

The order of a graph lists every formula cell once (`nodup_order`, `mem_order_iff`), and a cell that
leads to no cycle after all formula cells that it reads (`pairwise_order`).

The proof follows the tasks that are left to do. Of every formula cell it is known whether it has
been listed, is open (entered but not left) or remains to be entered, and open cells lead down to
the tasks above them. So a read cell that is met while it is open closes a cycle, and every other
one is listed before its reader is left.
-/

namespace Spreadsheet.Graph

open Relation

variable {g remaining : Graph} {a b : Address} {reads done : List Address} {tasks rest : List Task}

namespace Task

/-- The cell of a task. -/
def cell : Task → Address
  | enter a => a
  | leave a => a

/-- The cell that a task leaves. -/
def left? : Task → Option Address
  | enter _ => none
  | leave a => some a

end Task

/-! ## Tasks that are left to do -/

/-- The open cells: those that some task leaves. -/
def opened (tasks : List Task) : List Address :=
  tasks.filterMap Task.left?

@[simp] theorem opened_nil : opened [] = [] := rfl

@[simp] theorem opened_enter_cons : opened (.enter a :: tasks) = opened tasks := rfl

@[simp] theorem opened_leave_cons : opened (.leave a :: tasks) = a :: opened tasks := rfl

@[simp] theorem opened_map_enter_append :
    opened (reads.map .enter ++ tasks) = opened tasks := by
  induction reads with
  | nil => rfl
  | cons b reads ih => simpa using ih

/-- Every cell that is left, unless it leads to a cycle, reads only formula cells that are known by
then: from the start, or from an earlier task. -/
def Scheduled (g : Graph) (known : Address → Prop) : List Task → Prop
  | [] => True
  | .enter a :: tasks => g.Scheduled (fun b => known b ∨ b = a) tasks
  | .leave a :: tasks =>
    (¬g.LeadsToCycle a → ∀ b ∈ g, g.Reads a b → known b) ∧
      g.Scheduled (fun b => known b ∨ b = a) tasks

theorem scheduled_enter_cons {known : Address → Prop} :
    g.Scheduled known (.enter a :: tasks) ↔ g.Scheduled (fun b => known b ∨ b = a) tasks :=
  .rfl

theorem scheduled_leave_cons {known : Address → Prop} :
    g.Scheduled known (.leave a :: tasks) ↔
      (¬g.LeadsToCycle a → ∀ b ∈ g, g.Reads a b → known b) ∧
        g.Scheduled (fun b => known b ∨ b = a) tasks :=
  .rfl

/-- A schedule remains one when more formula cells are known. -/
theorem Scheduled.mono {known known' : Address → Prop} (h : g.Scheduled known tasks)
    (hknown : ∀ b ∈ g, known b → known' b) : g.Scheduled known' tasks := by
  induction tasks generalizing known known' with
  | nil => trivial
  | cons task tasks ih =>
    have hmore (a : Address) : ∀ b ∈ g, (known b ∨ b = a) → known' b ∨ b = a :=
      fun b hb hk => hk.imp_left (hknown b hb)
    cases task with
    | enter a => exact ih h (hmore a)
    | leave a => exact ⟨fun ha b hb hab => hknown b hb (h.1 ha b hb hab), ih h.2 (hmore a)⟩

/-- Entering some cells makes them known. -/
theorem scheduled_map_enter_append {known : Address → Prop} :
    g.Scheduled known (reads.map .enter ++ tasks) ↔
      g.Scheduled (fun b => known b ∨ b ∈ reads) tasks := by
  induction reads generalizing known with
  | nil => simp
  | cons a reads ih =>
    rw [List.map_cons, List.cons_append, Scheduled, ih]
    simp only [List.mem_cons, or_assoc]

/-- Nothing is lost when an open cell is not known: what is above it and reads it closes a cycle. -/
theorem Scheduled.of_opened {known : Address → Prop}
    (h : g.Scheduled (fun b => known b ∨ b = a) tasks) (ha : a ∈ opened tasks)
    (habove : tasks.Pairwise fun t u => ∀ c ∈ u.left?, TransGen g.Reads c t.cell) :
    g.Scheduled known tasks := by
  induction tasks generalizing known with
  | nil => trivial
  | cons task tasks ih =>
    obtain ⟨htask, hpairs⟩ := List.pairwise_cons.1 habove
    have hswap {c : Address} : ∀ b ∈ g, (known b ∨ b = a) ∨ b = c → (known b ∨ b = c) ∨ b = a :=
      fun b _ hb => by tauto
    cases task with
    | enter c => exact ih ((scheduled_enter_cons.1 h).mono hswap) ha hpairs
    | leave c =>
      by_cases hac : a = c
      · subst hac
        refine ⟨fun hcycle b hb hab => ?_, h.2.mono fun b _ hb => by tauto⟩
        refine (h.1 hcycle b hb hab).resolve_right fun hba => ?_
        exact hcycle (leadsToCycle_of_transGen (.single (hba ▸ hab)))
      · have hmem : a ∈ opened tasks := by simpa [hac] using ha
        refine ⟨fun hcycle b hb hcb => ?_, ih (h.2.mono hswap) hmem hpairs⟩
        refine (h.1 hcycle b hb hcb).resolve_right fun hba => ?_
        obtain ⟨u, hu, hleft⟩ := List.mem_filterMap.1 hmem
        exact hcycle (.of_return (hba ▸ hcb) (htask u hu a hleft))

/-! ## The state of the search -/

/-- What holds when the cells `done` have been listed, those of `remaining` have not been entered,
and the tasks are left to do. -/
structure Pending (g : Graph) (done : List Address) (remaining : Graph) (tasks : List Task) :
    Prop where
  cover : ∀ a, a ∈ g ↔ a ∈ done ∨ a ∈ opened tasks ∨ a ∈ remaining
  fresh : ∀ a ∈ remaining, a ∉ done ∧ a ∉ opened tasks
  agree : ∀ a ∈ remaining, remaining[a]? = g[a]?
  entered : ∀ a ∈ remaining, .enter a ∈ tasks
  nodup : (done ++ opened tasks).Nodup
  closed : ∀ a ∈ done, ¬g.LeadsToCycle a → ∀ b ∈ g, g.Reads a b → b ∈ done
  ordered : done.Pairwise fun a b => g.Reads a b → g.LeadsToCycle a
  scheduled : g.Scheduled (· ∈ done) tasks
  above : tasks.Pairwise fun t u => ∀ c ∈ u.left?, TransGen g.Reads c t.cell

namespace Pending

/-- At the start every formula cell remains to be entered. -/
theorem start (g : Graph) : g.Pending [] g (g.keys.map .enter) := by
  have hopened : opened (g.keys.map .enter) = [] := by
    rw [← List.append_nil (g.keys.map _), opened_map_enter_append]
    rfl
  have hscheduled : g.Scheduled (· ∈ []) (g.keys.map .enter) := by
    rw [← List.append_nil (g.keys.map _)]
    exact scheduled_map_enter_append.2 trivial
  exact {
    cover := by simp [hopened]
    fresh := by simp [hopened]
    agree := fun _ _ => rfl
    entered := fun a ha => List.mem_map_of_mem (Std.ExtTreeMap.mem_keys.2 ha)
    nodup := by simp [hopened]
    closed := by simp
    ordered := .nil
    scheduled := hscheduled
    above := List.pairwise_map.2 (List.pairwise_of_forall fun _ _ _ hc => by cases hc) }

/-- Leaving a cell lists it. -/
theorem leave (h : g.Pending done remaining (.leave a :: rest)) :
    g.Pending (done ++ [a]) remaining rest where
  cover b := by
    rw [h.cover b, opened_leave_cons, List.mem_cons, List.mem_append, List.mem_singleton]
    tauto
  fresh b hb := by
    have := h.fresh b hb
    simp only [opened_leave_cons, List.mem_cons, not_or] at this
    simp [this]
  agree := h.agree
  entered b hb := by simpa using h.entered b hb
  nodup := by simpa using h.nodup
  closed b hb hcycle c hc hbc := by
    rcases List.mem_append.1 hb with hb | hb
    · exact List.mem_append_left _ (h.closed b hb hcycle c hc hbc)
    · obtain rfl := List.mem_singleton.1 hb
      exact List.mem_append_left _ (h.scheduled.1 hcycle c hc hbc)
  ordered := by
    have hnodup := h.nodup
    refine List.pairwise_append.2 ⟨h.ordered, by simp, fun b hb c hc hbc => ?_⟩
    obtain rfl := List.mem_singleton.1 hc
    -- a listed cell that leads to no cycle has all that it reads listed
    by_contra hcycle
    have hmem : c ∈ g := (h.cover c).2 (by simp)
    have := h.closed b hb hcycle c hmem hbc
    exact (List.nodup_append.1 hnodup).2.2 c this c (by simp) rfl
  scheduled := h.scheduled.2.mono fun b _ hb => by simpa using hb
  above := (List.pairwise_cons.1 h.above).2

/-- A cell that has been entered before is passed over. -/
theorem skip (ha : a ∉ remaining) (h : g.Pending done remaining (.enter a :: rest)) :
    g.Pending done remaining rest where
  cover := by simpa using h.cover
  fresh := by simpa using h.fresh
  agree := h.agree
  entered b hb := by
    refine (List.mem_cons.1 (h.entered b hb)).resolve_left fun hba => ?_
    exact ha (Task.enter.inj hba ▸ hb)
  nodup := by simpa using h.nodup
  closed := h.closed
  ordered := h.ordered
  scheduled := by
    have hscheduled := scheduled_enter_cons.1 h.scheduled
    by_cases hg : a ∈ g
    · rcases (h.cover a).1 hg with hdone | hopened | hremaining
      · exact hscheduled.mono fun b _ hb => hb.elim id fun hba => hba ▸ hdone
      · exact hscheduled.of_opened hopened (List.pairwise_cons.1 h.above).2
      · exact absurd hremaining ha
    · exact hscheduled.mono fun b hb hk => hk.resolve_right fun hba => hg (hba ▸ hb)
  above := (List.pairwise_cons.1 h.above).2

/-- Entering a cell leaves the cells that it reads to be entered before it is left. -/
theorem enter (ha : remaining[a]? = some reads) (h : g.Pending done remaining (.enter a :: rest)) :
    g.Pending done (remaining.erase a) (reads.map .enter ++ .leave a :: rest) where
  cover b := by
    have hmem : a ∈ remaining := mem_of_getElem? ha
    rw [h.cover b, opened_enter_cons, opened_map_enter_append, opened_leave_cons, List.mem_cons,
      mem_erase_iff]
    by_cases hab : a = b
    · subst hab
      simp [hmem]
    · simp [hab, Ne.symm hab]
  fresh b hb := by
    obtain ⟨hab, hb⟩ := mem_erase_iff.1 hb
    have := h.fresh b hb
    simp_all [Ne.symm hab]
  agree b hb := by
    obtain ⟨hab, hb⟩ := mem_erase_iff.1 hb
    rw [← h.agree b hb, Std.ExtTreeMap.getElem?_erase, if_neg (by simpa using hab)]
  entered b hb := by
    obtain ⟨hab, hb⟩ := mem_erase_iff.1 hb
    have := (List.mem_cons.1 (h.entered b hb)).resolve_left fun hba => hab (Task.enter.inj hba).symm
    simp [this]
  nodup := by
    have hfresh := h.fresh a (mem_of_getElem? ha)
    rw [opened_map_enter_append, opened_leave_cons, List.nodup_middle, List.nodup_cons,
      List.mem_append, not_or]
    exact ⟨hfresh, h.nodup⟩
  closed := h.closed
  ordered := h.ordered
  scheduled := by
    have hga : g[a]? = some reads := by rw [← h.agree a (mem_of_getElem? ha), ha]
    rw [scheduled_map_enter_append, scheduled_leave_cons]
    refine ⟨fun _ b _ hab => .inr ((reads_iff hga).1 hab), ?_⟩
    exact (scheduled_enter_cons.1 h.scheduled).mono fun b _ hb => hb.imp_left .inl
  above := by
    have hga : g[a]? = some reads := by rw [← h.agree a (mem_of_getElem? ha), ha]
    obtain ⟨hhead, htail⟩ := List.pairwise_cons.1 h.above
    refine List.pairwise_append.2
      ⟨?_, List.pairwise_cons.2 ⟨hhead, htail⟩, fun t ht u hu c hc => ?_⟩
    · refine List.pairwise_map.2 (List.pairwise_of_forall fun b c d hd => ?_)
      cases hd
    · obtain ⟨b, hb, rfl⟩ := List.mem_map.1 ht
      have hab : g.Reads a b := (reads_iff hga).2 hb
      rcases List.mem_cons.1 hu with rfl | hu
      · obtain rfl : a = c := by simpa [Task.left?] using hc
        exact .single hab
      · exact (hhead u hu c hc).tail hab

/-- What `advance` lists, and where it stops. -/
theorem advance (h : g.Pending done remaining tasks) :
    match (Graph.advance remaining tasks).2 with
    | none => g.Pending (done ++ (Graph.advance remaining tasks).1) remaining []
    | some (a, rest) =>
      g.Pending (done ++ (Graph.advance remaining tasks).1) remaining (.enter a :: rest) := by
  induction tasks generalizing done with
  | nil => simpa [Graph.advance] using h
  | cons task tasks ih =>
    cases task with
    | leave a => simpa [Graph.advance] using ih h.leave
    | enter a =>
      by_cases ha : a ∈ remaining
      · simpa [Graph.advance, ha] using h
      · simpa [Graph.advance, ha] using ih (h.skip ha)

/-- All tasks are carried out in the end. -/
theorem orderFrom (h : g.Pending done remaining tasks) :
    ∃ rest, g.Pending (done ++ Graph.orderFrom remaining tasks) rest [] := by
  induction remaining, tasks using orderFrom.induct generalizing done with
  | case1 remaining tasks ih =>
    have hadvance := h.advance
    rw [Graph.orderFrom]
    split
    · rename_i hnone
      rw [hnone] at hadvance
      exact ⟨remaining, by simpa using hadvance⟩
    · rename_i a rest hsome
      rw [hsome] at hadvance
      obtain ⟨reads, hreads⟩ := Option.isSome_iff_exists.1
        (Std.ExtTreeMap.mem_iff_isSome_getElem?.1 (mem_of_advance hsome))
      rw [← List.append_assoc]
      refine ih a rest hsome (hadvance.enter ?_)
      rw [hreads, Std.ExtTreeMap.getD_eq_getD_getElem?, hreads, Option.getD_some]

end Pending

/-! ## The order -/

/-- The order of a graph is the end of the search. -/
theorem pending_order (g : Graph) : ∃ rest, g.Pending g.order rest [] :=
  (Pending.start g).orderFrom

theorem mem_order_iff : a ∈ g.order ↔ a ∈ g := by
  obtain ⟨rest, h⟩ := pending_order g
  have hrest : a ∉ rest := fun ha => by simpa using h.entered a ha
  simpa [hrest] using (h.cover a).symm

theorem nodup_order (g : Graph) : g.order.Nodup := by
  obtain ⟨rest, h⟩ := pending_order g
  simpa using h.nodup

/-- **Precedents come first**: a cell that reads a later one of the order leads to a cycle. -/
theorem pairwise_order (g : Graph) :
    g.order.Pairwise fun a b => g.Reads a b → g.LeadsToCycle a := by
  obtain ⟨rest, h⟩ := pending_order g
  exact h.ordered

/-! ## The order of a part -/

theorem mem_addressSet_ofList {cells : List Address} : a ∈ AddressSet.ofList cells ↔ a ∈ cells := by
  have hfold : ∀ set : AddressSet,
      a ∈ cells.foldl (fun set a => set.insert a) set ↔ a ∈ set ∨ a ∈ cells := by
    induction cells with
    | nil => simp
    | cons b cells ih =>
      intro set
      rw [List.foldl_cons, ih, Std.ExtTreeSet.mem_insert, Std.compare_eq_iff_eq, List.mem_cons,
        eq_comm]
      tauto
  rw [AddressSet.ofList, hfold]
  simp

theorem getElem?_within (g : Graph) (cells : List Address) :
    (g.within cells)[a]? = if a ∈ cells then g[a]? else none := by
  rw [within, Std.ExtTreeMap.getElem?_filter']
  cases g[a]? with
  | none => simp
  | some reads => simp [Option.filter_some, mem_addressSet_ofList]

theorem reads_within_iff {cells : List Address} :
    (g.within cells).Reads a b ↔ a ∈ cells ∧ g.Reads a b := by
  by_cases ha : a ∈ cells <;> simp [Reads, getElem?_within, ha]

theorem mem_order_within_iff {cells : List Address} :
    a ∈ (g.within cells).order ↔ a ∈ g ∧ a ∈ cells := by
  rw [mem_order_iff, Std.ExtTreeMap.mem_iff_isSome_getElem?, getElem?_within,
    Std.ExtTreeMap.mem_iff_isSome_getElem?]
  by_cases ha : a ∈ cells <;> simp [ha]

theorem pairwise_order_within (g : Graph) (cells : List Address) :
    (g.within cells).order.Pairwise fun a b => g.Reads a b → g.LeadsToCycle a := by
  refine (pairwise_order _).imp_of_mem fun ha _ hcycle hab => ?_
  refine (hcycle (reads_within_iff.2 ⟨(mem_order_within_iff.1 ha).2, hab⟩)).mono ?_
  exact fun x y hxy => (reads_within_iff.1 hxy).2

end Spreadsheet.Graph
