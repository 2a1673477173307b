import Spreadsheet.Proofs.Except
import Spreadsheet.Sheet.Edit

/-!
# What an edit does

An edit is refused or has its effect. `Edit.Effect` lists the effects, one for each kind of edit,
with what the edit has looked at by then. An edit can do nothing else (`Sheet.apply_effect`), so
what holds along a history follows from the effects alone (`Sheet.run_induction`).
-/

namespace Spreadsheet

/-- The effect of an edit on a sheet that does not refuse it. -/
inductive Edit.Effect (s : Sheet) : Edit → Sheet → Prop
  | setText {label text : String} {a : Address} (ha : Address.ofText label = .ok a) :
    Effect s (.setText label text) (s.enter a text)
  | setStyle {label : String} {patch : StylePatch} {a : Address}
    (ha : Address.ofText label = .ok a) : Effect s (.setStyle label patch) (s.restyle a patch)
  | clear {label : String} {a : Address} (ha : Address.ofText label = .ok a) :
    Effect s (.clear label) (s.erase a)
  | insert {axis : Axis} {i : Coord} : Effect s (.insert axis i) (s.insertLine axis i)
  | delete {axis : Axis} {i : Coord} : Effect s (.delete axis i) (s.deleteLine axis i)
  | copy {first last : String} {a b : Address} (ha : Address.ofText first = .ok a)
    (hb : Address.ofText last = .ok b) :
    Effect s (.copy first last) { s with clipboard := some (.snapshot s.grid a b) }
  | cut {first last : String} {a b : Address} (ha : Address.ofText first = .ok a)
    (hb : Address.ofText last = .ok b) : Effect s (.cut first last) (s.take a b)
  | paste {target : String} {a : Address} {c : Clipboard} (ha : Address.ofText target = .ok a)
    (hc : s.clipboard = some c) (hcells : c.cells.isEmpty = false) :
    Effect s (.paste target) (s.place (c.placed a))
  | removeDuplicates {first last : String} {r : Range}
    (hr : Sheet.rangeBetween first last = .ok r) :
    Effect s (.removeDuplicates first last) (s.eraseRepeated r)
  | replaceNothing {first last find new : String} (hfind : find.isEmpty = true) :
    Effect s (.replace first last find new) s
  | replace {first last find new : String} {r : Range} (hr : Sheet.rangeBetween first last = .ok r)
    (hfind : find.isEmpty = false) :
    Effect s (.replace first last find new) (s.replaceWithin r find new)
  | setSize {axis : Axis} {i : Coord} {size : UInt32} :
    Effect s (.setSize axis i size) (s.setSize axis i size)
  | register {name : String} {operation : Operation} :
    Effect s (.register name operation) (s.register name operation)
  | recalculate : Effect s .recalculate s.recalculate

namespace Sheet

variable {s s' : Sheet} {e : Edit} {answer : Answer}

/-- An edit that is not refused has its effect. -/
theorem effect_of_perform (h : s.perform e = .ok (answer, s')) : e.Effect s s' := by
  cases e with
  | setText label text =>
    obtain ⟨t, ht, hs⟩ := Except.map_eq_ok_iff.1 h
    obtain ⟨a, ha, rfl⟩ := Except.map_eq_ok_iff.1 ht
    cases hs
    exact .setText ha
  | setStyle label patch =>
    obtain ⟨t, ht, hs⟩ := Except.map_eq_ok_iff.1 h
    obtain ⟨a, ha, rfl⟩ := Except.map_eq_ok_iff.1 ht
    cases hs
    exact .setStyle ha
  | clear label =>
    obtain ⟨t, ht, hs⟩ := Except.map_eq_ok_iff.1 h
    obtain ⟨a, ha, rfl⟩ := Except.map_eq_ok_iff.1 ht
    cases hs
    exact .clear ha
  | insert axis i =>
    cases h
    exact .insert
  | delete axis i =>
    cases h
    exact .delete
  | copy first last =>
    obtain ⟨t, ht, hs⟩ := Except.map_eq_ok_iff.1 h
    obtain ⟨a, ha, ht⟩ := Except.bind_eq_ok_iff.1 ht
    obtain ⟨b, hb, ht⟩ := Except.bind_eq_ok_iff.1 ht
    cases ht
    cases hs
    exact .copy ha hb
  | cut first last =>
    obtain ⟨t, ht, hs⟩ := Except.map_eq_ok_iff.1 h
    obtain ⟨a, ha, ht⟩ := Except.bind_eq_ok_iff.1 ht
    obtain ⟨b, hb, ht⟩ := Except.bind_eq_ok_iff.1 ht
    cases ht
    cases hs
    exact .cut ha hb
  | paste target =>
    obtain ⟨t, ht, hs⟩ := Except.map_eq_ok_iff.1 h
    obtain ⟨a, ha, ht⟩ := Except.bind_eq_ok_iff.1 ht
    cases hc : s.clipboard with
    | none =>
      rw [hc] at ht
      cases ht
    | some c =>
      rw [hc] at ht
      cases hcells : c.cells.isEmpty with
      | true => simp [hcells, throw, throwThe, MonadExceptOf.throw, bind, Except.bind] at ht
      | false =>
        simp only [hcells] at ht
        cases ht
        cases hs
        exact .paste ha hc hcells
  | removeDuplicates first last =>
    obtain ⟨t, ht, hs⟩ := Except.map_eq_ok_iff.1 h
    obtain ⟨r, hr, rfl⟩ := Except.map_eq_ok_iff.1 ht
    cases hs
    exact .removeDuplicates hr
  | replace first last find new =>
    obtain ⟨t, ht, hs⟩ := Except.map_eq_ok_iff.1 h
    obtain ⟨r, hr, rfl⟩ := Except.map_eq_ok_iff.1 ht
    cases hfind : find.isEmpty with
    | true =>
      rw [if_pos hfind] at hs
      cases hs
      exact .replaceNothing hfind
    | false =>
      rw [if_neg (by simp [hfind])] at hs
      cases hs
      exact .replace hr hfind
  | setSize axis i size =>
    cases h
    exact .setSize
  | register name operation =>
    cases h
    exact .register
  | recalculate =>
    cases h
    exact .recalculate

/-- **An edit has its effect or leaves the sheet as it is.** -/
theorem apply_effect (s : Sheet) (e : Edit) : s.apply e = s ∨ e.Effect s (s.apply e) := by
  cases h : s.perform e with
  | error err => exact .inl (by rw [apply, h])
  | ok result =>
    have heffect : e.Effect s result.2 := effect_of_perform h
    exact .inr (by rwa [apply, h])

/-! ## Edits one by one

What an edit makes of a sheet, from what its labels are read as. -/

theorem apply_setText (s : Sheet) (label text : String) :
    s.apply (.setText label text) =
      match Address.ofText label with
      | .ok a => s.enter a text
      | .error _ => s := by
  rw [apply, perform, setText]
  cases Address.ofText label <;> rfl

theorem apply_setStyle (s : Sheet) (label : String) (patch : StylePatch) :
    s.apply (.setStyle label patch) =
      match Address.ofText label with
      | .ok a => s.restyle a patch
      | .error _ => s := by
  rw [apply, perform, setStyle]
  cases Address.ofText label <;> rfl

theorem apply_clear (s : Sheet) (label : String) :
    s.apply (.clear label) =
      match Address.ofText label with
      | .ok a => s.erase a
      | .error _ => s := by
  rw [apply, perform, clear]
  cases Address.ofText label <;> rfl

theorem apply_copy (s : Sheet) (first last : String) :
    s.apply (.copy first last) =
      match Address.ofText first, Address.ofText last with
      | .ok a, .ok b => { s with clipboard := some (.snapshot s.grid a b) }
      | _, _ => s := by
  rw [apply, perform, copy]
  cases Address.ofText first <;> cases Address.ofText last <;> rfl

theorem apply_cut (s : Sheet) (first last : String) :
    s.apply (.cut first last) =
      match Address.ofText first, Address.ofText last with
      | .ok a, .ok b => s.take a b
      | _, _ => s := by
  rw [apply, perform, cut]
  cases Address.ofText first <;> cases Address.ofText last <;> rfl

theorem apply_removeDuplicates (s : Sheet) (first last : String) :
    s.apply (.removeDuplicates first last) =
      match rangeBetween first last with
      | .ok r => s.eraseRepeated r
      | .error _ => s := by
  rw [apply, perform, removeDuplicates]
  cases rangeBetween first last <;> rfl

theorem apply_replace (s : Sheet) (first last find new : String) :
    s.apply (.replace first last find new) =
      match rangeBetween first last with
      | .ok r => if find.isEmpty then s else s.replaceWithin r find new
      | .error _ => s := by
  rw [apply, perform, replace]
  cases rangeBetween first last with
  | error err => rfl
  | ok r => cases find.isEmpty <;> rfl

/-! ## Histories -/

/-- What every effect preserves holds along a history. -/
theorem run_induction {P : Sheet → Prop} {history : List Edit} (hs : P s)
    (hstep : ∀ s, P s → ∀ e ∈ history, ∀ s', e.Effect s s' → P s') : P (s.run history) := by
  induction history generalizing s with
  | nil => exact hs
  | cons e history ih =>
    have happly : P (s.apply e) := by
      rcases s.apply_effect e with h | h
      · rwa [h]
      · exact hstep s hs e (by simp) _ h
    exact ih happly fun s hs e he => hstep s hs e (List.mem_cons_of_mem _ he)

end Sheet

end Spreadsheet
