import Spreadsheet.Proofs.Dependency.Order

/-!
# The order of a part of a graph

A part of a graph is listed in the order of the whole graph (`order_part`), if no cell outside it
reads one of its cells: then the search never enters the part from outside.
-/

namespace Spreadsheet.Graph

variable {g remaining : Graph} {a : Address} {cells : List Address} {tasks : List Task}
  {p : Address → Bool}

/-! ## One task -/

theorem orderFrom_nil (remaining : Graph) : orderFrom remaining [] = [] := by
  rw [orderFrom]
  rfl

theorem orderFrom_leave :
    orderFrom remaining (.leave a :: tasks) = a :: orderFrom remaining tasks := by
  rw [orderFrom, orderFrom]
  rfl

theorem orderFrom_skip (ha : a ∉ remaining) :
    orderFrom remaining (.enter a :: tasks) = orderFrom remaining tasks := by
  have hadvance : advance remaining (.enter a :: tasks) = advance remaining tasks := by
    rw [advance, if_neg ha]
  rw [orderFrom, orderFrom, hadvance]

theorem orderFrom_enter (ha : a ∈ remaining) :
    orderFrom remaining (.enter a :: tasks) =
      orderFrom (remaining.erase a) ((remaining.getD a []).map .enter ++ .leave a :: tasks) := by
  have hadvance : advance remaining (.enter a :: tasks) = ([], some (a, tasks)) := by
    rw [advance, if_pos ha]
  rw [orderFrom, hadvance]
  rfl

/-! ## Tasks that do nothing -/

/-- Whether a task can do anything: entering a cell that does not remain cannot. -/
def isLive (remaining : Graph) : Task → Bool
  | .enter a => remaining.contains a
  | .leave _ => true

theorem isLive_of_erase {task : Task} (h : isLive (remaining.erase a) task = true) :
    isLive remaining task = true := by
  cases task with
  | leave b => rfl
  | enter b =>
    have hb : b ∈ remaining.erase a := Std.ExtTreeMap.contains_iff_mem.1 h
    exact Std.ExtTreeMap.contains_iff_mem.2 (mem_erase_iff.1 hb).2

/-- The order does not change when tasks that can do nothing are left out. -/
theorem orderFrom_filter_isLive (remaining : Graph) (tasks : List Task) :
    orderFrom remaining (tasks.filter (isLive remaining)) = orderFrom remaining tasks := by
  match tasks with
  | [] => rfl
  | .leave a :: rest =>
    rw [List.filter_cons_of_pos rfl, orderFrom_leave, orderFrom_leave,
      orderFrom_filter_isLive remaining rest]
  | .enter a :: rest =>
    by_cases ha : a ∈ remaining
    · have hlive : isLive remaining (.enter a) = true := Std.ExtTreeMap.contains_iff_mem.2 ha
      have hsub : (rest.filter (isLive remaining)).filter (isLive (remaining.erase a)) =
          rest.filter (isLive (remaining.erase a)) := by
        rw [List.filter_filter]
        refine List.filter_congr fun task _ => ?_
        cases htask : isLive (remaining.erase a) task with
        | false => rfl
        | true => rw [isLive_of_erase htask]; rfl
      rw [List.filter_cons_of_pos hlive, orderFrom_enter ha, orderFrom_enter ha,
        ← orderFrom_filter_isLive (remaining.erase a) (_ ++ _ :: rest),
        ← orderFrom_filter_isLive (remaining.erase a) (_ ++ _ :: rest.filter _)]
      simp only [List.filter_append, List.filter_cons, hsub]
    · have hdead : ¬isLive remaining (.enter a) = true := mt Std.ExtTreeMap.contains_iff_mem.1 ha
      rw [List.filter_cons_of_neg hdead, orderFrom_skip ha, orderFrom_filter_isLive remaining rest]
termination_by (remaining.size, tasks.length)
decreasing_by
  all_goals first
    | exact Prod.Lex.right _ (Nat.lt_succ_self _)
    | exact Prod.Lex.left _ _ (size_erase_lt ha)

/-! ## The tasks of a part -/

/-- The part of a graph on the cells that satisfy a test. -/
def part (g : Graph) (p : Address → Bool) : Graph :=
  g.filter fun a _ => p a

theorem getElem?_part (g : Graph) (p : Address → Bool) (a : Address) :
    (g.part p)[a]? = if p a then g[a]? else none := by
  rw [part, Std.ExtTreeMap.getElem?_filter']
  cases g[a]? with
  | none => simp
  | some cells => simp [Option.filter_some]

theorem mem_part_iff : a ∈ g.part p ↔ p a = true ∧ a ∈ g := by
  rw [Std.ExtTreeMap.mem_iff_isSome_getElem?, getElem?_part, Std.ExtTreeMap.mem_iff_isSome_getElem?]
  cases p a <;> simp

theorem part_erase (g : Graph) (p : Address → Bool) (a : Address) :
    part (g.erase a) p = (g.part p).erase a := by
  refine Std.ExtTreeMap.ext_getElem? fun {b} => ?_
  rw [getElem?_part, Std.ExtTreeMap.getElem?_erase, Std.ExtTreeMap.getElem?_erase, getElem?_part]
  cases p b <;> simp

theorem part_erase_of_not (g : Graph) (ha : p a = false) : part (g.erase a) p = g.part p := by
  refine Std.ExtTreeMap.ext_getElem? fun {b} => ?_
  rw [getElem?_part, getElem?_part, Std.ExtTreeMap.getElem?_erase]
  by_cases hab : a = b
  · simp [← hab, ha]
  · simp [hab]

/-- No cell outside the part reads one of its cells. -/
def IsClosed (g : Graph) (p : Address → Bool) : Prop :=
  ∀ a, p a = false → ∀ b ∈ g.getD a [], p b = false

theorem IsClosed.erase (h : g.IsClosed p) (a : Address) : IsClosed (g.erase a) p := by
  intro c hc b hb
  refine h c hc b ?_
  rw [Std.ExtTreeMap.getD_erase] at hb
  split at hb
  · cases hb
  · exact hb

@[simp] theorem Task.cell_enter : (Task.enter a).cell = a := rfl

@[simp] theorem Task.cell_leave : (Task.leave a).cell = a := rfl

/-- Only cells of the part can be entered when no others remain. -/
theorem filter_isLive_enter (hinside : ∀ b ∈ remaining, p b = true) :
    ((cells.map Task.enter).filter fun task => p task.cell).filter (isLive remaining) =
      (cells.map Task.enter).filter (isLive remaining) := by
  rw [List.filter_filter]
  refine List.filter_congr fun task htask => ?_
  obtain ⟨b, -, rfl⟩ := List.mem_map.1 htask
  cases hb : isLive remaining (.enter b) with
  | false => rfl
  | true => rw [Task.cell_enter, hinside b (Std.ExtTreeMap.contains_iff_mem.1 hb)]; rfl

/-- What is listed of a part by some tasks is what the tasks of the part list. -/
theorem filter_orderFrom (remaining : Graph) (tasks : List Task) (h : remaining.IsClosed p) :
    (orderFrom remaining tasks).filter p =
      orderFrom (remaining.part p) (tasks.filter fun task => p task.cell) := by
  match tasks with
  | [] => simp [orderFrom_nil]
  | .leave a :: rest =>
    rw [orderFrom_leave, List.filter_cons, List.filter_cons, Task.cell_leave,
      filter_orderFrom remaining rest h]
    cases p a with
    | true => exact orderFrom_leave.symm
    | false => rfl
  | .enter a :: rest =>
    by_cases ha : a ∈ remaining
    · rw [orderFrom_enter ha, filter_orderFrom _ (_ ++ _ :: rest) (h.erase a), List.filter_append,
        List.filter_cons, List.filter_cons, Task.cell_leave, Task.cell_enter]
      cases hp : p a with
      | true =>
        have hreads : (remaining.part p).getD a [] = remaining.getD a [] := by
          simp [Std.ExtTreeMap.getD_eq_getD_getElem?, getElem?_part, hp]
        have hinside : ∀ b ∈ (remaining.part p).erase a, p b = true := fun b hb =>
          (mem_part_iff.1 (mem_erase_iff.1 hb).2).1
        -- what `a` reads outside the part is not there to be entered
        rw [if_pos rfl, if_pos rfl, part_erase, orderFrom_enter (mem_part_iff.2 ⟨hp, ha⟩), hreads,
          ← orderFrom_filter_isLive _ (_ ++ _), List.filter_append, filter_isLive_enter hinside,
          ← List.filter_append, orderFrom_filter_isLive]
      | false =>
        have hout :
            ((remaining.getD a []).map Task.enter).filter (fun task => p task.cell) = [] := by
          simpa using h a hp
        simp only [hout, part_erase_of_not remaining hp]
        rfl
    · have hskip : a ∉ remaining.part p := fun hmem => ha (mem_part_iff.1 hmem).2
      rw [orderFrom_skip ha, filter_orderFrom remaining rest h, List.filter_cons, Task.cell_enter]
      cases p a with
      | true => exact (orderFrom_skip hskip).symm
      | false => rfl
termination_by (remaining.size, tasks.length)
decreasing_by
  all_goals first
    | exact Prod.Lex.right _ (Nat.lt_succ_self _)
    | exact Prod.Lex.left _ _ (size_erase_lt ha)

/-- **The order of a closed part** is what the order of the graph lists of it. -/
theorem order_part (h : g.IsClosed p) : (g.part p).order = g.order.filter p := by
  have hkeys : (g.part p).keys = g.keys.filter p := Std.ExtTreeMap.keys_filter_key
  rw [order, order, filter_orderFrom g _ h, hkeys, List.filter_map]
  rfl

/-- The order of some cells is part of the order of more cells, if of these none other reads one of
them. -/
theorem order_within {further : List Address} (hsub : ∀ a ∈ cells, a ∈ further)
    (hclosed : ∀ a ∈ further, a ∉ cells → ∀ b ∈ cells, ¬g.Reads a b) :
    (g.within cells).order = (g.within further).order.filter (cells.contains ·) := by
  have hpart : (g.within further).part (cells.contains ·) = g.within cells := by
    refine Std.ExtTreeMap.ext_getElem? fun {a} => ?_
    rw [getElem?_part, getElem?_within, getElem?_within]
    by_cases ha : a ∈ cells
    · simp [ha, hsub a ha]
    · simp [ha]
  rw [← hpart]
  refine order_part fun a ha b hb => ?_
  have hreads : (g.within further).Reads a b := by
    rw [Std.ExtTreeMap.getD_eq_getD_getElem?] at hb
    cases hget : (g.within further)[a]? with
    | none => simp [hget] at hb
    | some reads => exact ⟨reads, hget, by simpa [hget] using hb⟩
  obtain ⟨hfurther, hab⟩ := reads_within_iff.1 hreads
  rw [List.contains_eq_mem, decide_eq_false_iff_not] at ha ⊢
  exact fun hb => hclosed a hfurther ha b hb hab

end Spreadsheet.Graph
