import Spreadsheet.Proofs.Sheet.UnstyledEdit

/-!
# Styles and contents

A style that is written to an empty address leaves a stored cell behind. Such a cell reads as if it
were not stored, yet edits handle it like any other: taking it away has its dependents recomputed,
and pasting it writes over what was there. Both can show in the contents of a sheet
(`Sheet.contents_run_ne`). Where neither makes a difference, a history leads to the same contents as
without its styles (`Sheet.contents_run_eq`).

* `Edit.HandlesBlank` says at which addresses an edit takes away or pastes a cell that holds nothing
  but a style.
* `Edit.IgnoresStyles` says that this makes no difference to the sheet before the edit, and
  `Sheet.IgnoresStyles` that it never does along a history.
* `withoutStyles` leaves the styles out of a history.
-/

namespace Spreadsheet

variable {registry : Registry}

/-- The edit takes away or pastes a cell at the address that holds nothing but a style. -/
inductive Edit.HandlesBlank (s : Sheet) : Edit → Address → Prop
  | clear {label : String} {k : Address} {c : Cell} (hk : Address.ofText label = .ok k)
    (hc : s.grid[k]? = some c) (hblank : c.IsBlank) : HandlesBlank s (.clear label) k
  | cut {first last : String} {a b k : Address} {c : Cell} (ha : Address.ofText first = .ok a)
    (hb : Address.ofText last = .ok b) (hk : (Range.between a b).contains k = true)
    (hc : s.grid[k]? = some c) (hblank : c.IsBlank) : HandlesBlank s (.cut first last) k
  | removeDuplicates {first last : String} {r : Range} {k : Address} {c : Cell}
    (hr : Sheet.rangeBetween first last = .ok r) (hk : k.row ∈ Sheet.repeatedRows s.grid r)
    (hc : s.grid[k]? = some c) (hblank : c.IsBlank) :
    HandlesBlank s (.removeDuplicates first last) k
  | paste {target : String} {a k : Address} {block : Clipboard} {c : Cell}
    (ha : Address.ofText target = .ok a) (hclipboard : s.clipboard = some block)
    (hc : (k, c) ∈ block.placed a) (hblank : c.IsBlank) : HandlesBlank s (.paste target) k

/-- Where the edit takes away or pastes a cell that holds nothing but a style, the sheet reads as if
no cell were stored, and recomputing what depends on the address changes nothing. -/
def Edit.IgnoresStyles (s : Sheet) (e : Edit) : Prop :=
  ∀ k, e.HandlesBlank s k → s.grid.IsBlankAt k ∧ s.IsSteadyAt k

/-- Whether an edit writes a style. -/
def Edit.isStyle : Edit → Bool
  | .setStyle .. => true
  | _ => false

/-- A history with every style left out. -/
def withoutStyles (history : List Edit) : List Edit :=
  history.filter fun e => !e.isStyle

namespace Sheet

variable {s s' : Sheet} {a : Address} {history : List Edit}

/-! ## One edit -/

theorem place_nil (s : Sheet) : s.place [] = s := by
  change { s with grid := s.grid.propagate s.registry [] } = s
  rw [Grid.propagate_nil]

/-- A clipboard without cells is refused, but pasting it would change nothing either. -/
theorem apply_paste (s : Sheet) (target : String) :
    s.apply (.paste target) =
      match Address.ofText target, s.clipboard with
      | .ok a, some c => s.place (c.placed a)
      | _, _ => s := by
  rw [apply, perform, paste]
  cases Address.ofText target with
  | error err => rfl
  | ok a =>
    cases s.clipboard with
    | none => rfl
    | some c =>
      cases hcells : c.cells.isEmpty with
      | false => simp only [bind, Except.bind, hcells]; rfl
      | true =>
        have hempty : c.placed a = [] := by
          have hlist : c.cells.toList = [] := by simpa using hcells
          rw [Clipboard.placed, hlist]
          rfl
        simp only [bind, Except.bind, hcells, hempty, place_nil]
        rfl

/-- **An edit that ignores styles** does the same to the contents of a sheet as to the sheet without
its styles. -/
theorem unstyled_apply {e : Edit} (hs : s.CellsSatisfy Cell.IsProper) (he : e.IgnoresStyles s)
    (hstyle : e.isStyle = false) : (s.apply e).unstyled = s.unstyled.apply e := by
  cases e with
  | setText label text =>
    rw [apply_setText, apply_setText]
    cases Address.ofText label with
    | error err => rfl
    | ok a => exact unstyled_enter s a text
  | setStyle label patch => cases hstyle
  | clear label =>
    rw [apply_clear, apply_clear]
    cases ha : Address.ofText label with
    | error err => rfl
    | ok a =>
      simp only [erase_eq_removeWhere]
      refine unstyled_removeWhere hs.grid fun k c hk hc hblank => ?_
      obtain rfl : k = a := by simpa using hk
      exact (he k (.clear ha hc hblank)).2
  | insert axis i => exact unstyled_insertLine s axis i
  | delete axis i => exact unstyled_deleteLine s axis i
  | copy first last =>
    rw [apply_copy, apply_copy]
    cases Address.ofText first with
    | error err => rfl
    | ok a =>
      cases Address.ofText last with
      | error err => rfl
      | ok b => exact unstyled_copy s a b
  | cut first last =>
    rw [apply_cut, apply_cut]
    cases ha : Address.ofText first with
    | error err => rfl
    | ok a =>
      cases hb : Address.ofText last with
      | error err => rfl
      | ok b =>
        exact unstyled_take hs.grid fun k c hk hc hblank => (he k (.cut ha hb hk hc hblank)).2
  | paste target =>
    rw [apply_paste, apply_paste]
    cases ha : Address.ofText target with
    | error err => rfl
    | ok a =>
      cases hc : s.clipboard with
      | none => simp only [unstyled, hc, Option.map_none]
      | some c =>
        have hclipboard : s.unstyled.clipboard = some c.unstyled := by simp [unstyled, hc]
        simp only [hclipboard, Clipboard.placed_unstyled]
        exact unstyled_place hs.grid (c.nodup_placed a) fun entry hentry hblank =>
          he entry.1 (.paste ha hc hentry hblank)
  | removeDuplicates first last =>
    rw [apply_removeDuplicates, apply_removeDuplicates]
    cases hr : rangeBetween first last with
    | error err => rfl
    | ok r =>
      exact unstyled_eraseRepeated hs.grid fun k c hk hc hblank =>
        (he k (.removeDuplicates hr hk hc hblank)).2
  | replace first last find new =>
    rw [apply_replace, apply_replace]
    cases rangeBetween first last with
    | error err => rfl
    | ok r =>
      cases hfind : find.isEmpty with
      | true => rfl
      | false => exact unstyled_replaceWithin hs.grid hfind r
  | setSize axis i size =>
    change (s.withSizes axis _).unstyled = s.unstyled.withSizes axis _
    rw [unstyled_withSizes, sizes_unstyled]
  | register name operation => rfl
  | recalculate => exact unstyled_recalculate s

/-- Writing a style changes no contents. -/
theorem unstyled_apply_of_isStyle {e : Edit} (hstyle : e.isStyle = true) :
    (s.apply e).unstyled = s.unstyled := by
  cases e with
  | setStyle label patch =>
    rw [apply_setStyle]
    cases Address.ofText label with
    | error err => rfl
    | ok a => exact unstyled_restyle s a patch
  | _ => cases hstyle

/-! ## Histories -/

/-- Every edit of a history ignores the styles of the sheet before it. -/
def IgnoresStyles (s : Sheet) : List Edit → Prop
  | [] => True
  | e :: history => e.IgnoresStyles s ∧ (s.apply e).IgnoresStyles history

theorem CellsSatisfy.isProper_apply (hs : s.CellsSatisfy Cell.IsProper) (e : Edit) :
    (s.apply e).CellsSatisfy Cell.IsProper := by
  rcases s.apply_effect e with hrefused | heffect
  · rwa [hrefused]
  · exact hs.effect Cell.isKept_isProper (fun _ h => h)
      (fun _ _ _ _ _ _ _ h _ => h.replaceCell) heffect

/-- Along a history that ignores styles, the contents are those without the styles. -/
theorem unstyled_run (hs : s.CellsSatisfy Cell.IsProper) (hhistory : s.IgnoresStyles history) :
    (s.run history).unstyled = s.unstyled.run (withoutStyles history) := by
  induction history generalizing s with
  | nil => rfl
  | cons e history ih =>
    obtain ⟨he, hhistory⟩ := hhistory
    have hrest := ih (hs.isProper_apply e) hhistory
    change ((s.apply e).run history).unstyled = _
    cases hstyle : e.isStyle with
    | true =>
      have hskip : withoutStyles (e :: history) = withoutStyles history :=
        List.filter_cons_of_neg (by simp [hstyle])
      rw [hrest, unstyled_apply_of_isStyle hstyle, hskip]
    | false =>
      have hkeep : withoutStyles (e :: history) = e :: withoutStyles history :=
        List.filter_cons_of_pos (by simp [hstyle])
      rw [hrest, unstyled_apply hs he hstyle, hkeep]
      rfl

/-! ## Stable sheets -/

/-- Nothing is stale in a stable sheet, so no edit but pasting can tell a cell that holds nothing
but a style. -/
theorem IsStable.ignoresStyles {e : Edit} (h : s.IsStable registry)
    (he : e.KeepsSettled registry) : e.IgnoresStyles s := by
  have hsteady (k : Address) : s.IsSteadyAt k :=
    ⟨fun a _ f hf => h.registry_eq ▸ (h.formulas a f hf).2,
      fun a _ => h.registry_eq ▸ h.settled a⟩
  intro k hk
  cases hk with
  | clear _ hc hblank => exact ⟨(Grid.isBlankAt_iff_of_some hc).2 hblank, hsteady k⟩
  | cut _ _ _ hc hblank => exact ⟨(Grid.isBlankAt_iff_of_some hc).2 hblank, hsteady k⟩
  | removeDuplicates _ _ hc hblank => exact ⟨(Grid.isBlankAt_iff_of_some hc).2 hblank, hsteady k⟩
  | paste => exact he.elim

/-- Histories of edits that evaluate all that they change ignore styles. -/
theorem IsStable.ignoresStyles_run (h : s.IsStable registry)
    (hhistory : ∀ e ∈ history, e.KeepsSettled registry) : s.IgnoresStyles history := by
  induction history generalizing s with
  | nil => trivial
  | cons e history ih =>
    obtain ⟨he, hhistory⟩ := List.forall_mem_cons.1 hhistory
    refine ⟨h.ignoresStyles he, ih ?_ hhistory⟩
    rcases s.apply_effect e with hrefused | heffect
    · rwa [hrefused]
    · exact h.effect he heffect

/-! ## Contents -/

/-- **Styles never influence contents** along a history in which every edit ignores them: each
address reads as it does after the same history without its styles. -/
theorem contents_run_eq {config : Config} (hs : Sheet.new config registry = .ok s)
    (hhistory : s.IgnoresStyles history) (a : Address) :
    (s.run history).grid.raw a = (s.run (withoutStyles history)).grid.raw a ∧
      (s.run history).grid.formula? a = (s.run (withoutStyles history)).grid.formula? a ∧
      (s.run history).grid.value a = (s.run (withoutStyles history)).grid.value a := by
  have hrun : (s.run history).unstyled = s.run (withoutStyles history) := by
    rw [unstyled_run (cellsSatisfy_of_new hs) hhistory, unstyled_of_new hs]
  have hgrid : (s.run (withoutStyles history)).grid = (s.run history).grid.unstyled := by
    rw [← hrun]
    rfl
  simp only [hgrid, Grid.raw_unstyled, Grid.formula?_unstyled, Grid.value_unstyled, and_self]

/-- A style is written to an empty address that a formula reads, cleared and cut away. -/
theorem contents_run_eq_cleared :
    let s := Sheet.blank {} .builtin
    let history : List Edit :=
      [.setText "A1" "5", .setStyle "B1" { bold := some true }, .setText "C1" "=B1", .clear "B1",
        .setStyle "B1" { italic := some true }, .cut "A1" "B1"]
    s.IgnoresStyles history ∧ (s.run history).grid.value ⟨0, 2⟩ =
      (s.run (withoutStyles history)).grid.value ⟨0, 2⟩ := by
  intro s history
  have hnew : Sheet.new {} .builtin = .ok s := rfl
  have hliteral : Formula.isFormula "5" = false := by decide
  have hcovered : Formula.IsCovered .builtin "=B1" :=
    Formula.isCovered_of_reference (a := ⟨0, 1⟩) (by decide +kernel)
  have hignores : s.IgnoresStyles history := by
    refine (isStable_of_new hnew).ignoresStyles_run ?_
    simp [history, Edit.KeepsSettled, hliteral, hcovered]
  exact ⟨hignores, (contents_run_eq hnew hignores ⟨0, 2⟩).2.2⟩

/-- The contents of a sheet can show that a style was written: a cell that holds nothing but a style
is pasted over a text, or a formula that was pasted with the value of another time is evaluated
when such a cell is cleared. -/
theorem contents_run_ne :
    let s := Sheet.blank {} .builtin
    let overwritten : List Edit :=
      [.setText "A1" "5", .setStyle "B1" { bold := some true }, .copy "B1" "B1", .paste "A1"]
    let refreshed : List Edit :=
      [.setText "A1" "5", .setText "B1" "=A1", .copy "B1" "B1", .clear "A1", .paste "C1",
        .setStyle "A1" { bold := some true }, .clear "A1"]
    Sheet.new {} .builtin = .ok s ∧
      (s.run overwritten).grid.raw ⟨0, 0⟩ ≠ (s.run (withoutStyles overwritten)).grid.raw ⟨0, 0⟩ ∧
      (s.run refreshed).grid.value ⟨0, 2⟩ ≠
        (s.run (withoutStyles refreshed)).grid.value ⟨0, 2⟩ := by
  refine ⟨rfl, ?_, ?_⟩
  all_goals decide +kernel

end Sheet

end Spreadsheet
