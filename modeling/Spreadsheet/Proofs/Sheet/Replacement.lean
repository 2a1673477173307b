import Spreadsheet.Proofs.Sheet.Settled

/-!
# What a replacement leaves behind

A replacement writes to the raw texts and values of some cells and recomputes what depends on these.
It evaluates none of the cells that it writes to, also those that read one another.

* `Grid.replaceTexts` is the replacement itself. The formulas stay what they were
  (`Grid.graph_replaceTexts`).
* `Sheet.isSettledAt_replace_iff`: in a settled sheet all other cells are settled again afterwards.
  A formula cell that was written to is settled only where the replacement happens to turn its old
  value into its new one, or where it leads to a cycle.
-/

namespace Spreadsheet

variable {g : Grid} {r : Range} {find new f : String} {k : Address}

namespace Grid

open Sheet

/-- The grid with a text replaced in the cells of a range. -/
def replaceTexts (g : Grid) (r : Range) (find new : String) : Grid :=
  g.map fun a c => if isAffected r find a c then replaceCell find new c else c

theorem getElem?_replaceTexts :
    (g.replaceTexts r find new)[k]? =
      g[k]?.map fun c => if isAffected r find k c then replaceCell find new c else c :=
  Std.ExtTreeMap.getElem?_map

theorem mem_occurrences_iff_exists :
    k ∈ occurrences g r find ↔ ∃ c, g[k]? = some c ∧ isAffected r find k c = true := by
  rw [occurrences, Std.ExtTreeMap.mem_keys, Std.ExtTreeMap.mem_iff_isSome_getElem?,
    Std.ExtTreeMap.getElem?_filter', Option.isSome_iff_exists]
  simp only [Option.filter_eq_some_iff]

/-- Only the cells that hold the text are written to. -/
theorem getElem?_replaceTexts_of_notMem (hk : k ∉ occurrences g r find) :
    (g.replaceTexts r find new)[k]? = g[k]? := by
  rw [getElem?_replaceTexts]
  cases hc : g[k]? with
  | none => rfl
  | some c =>
    have hnot : ¬isAffected r find k c = true := fun h =>
      hk (mem_occurrences_iff_exists.2 ⟨c, hc, h⟩)
    rw [Option.map_some, if_neg hnot]

theorem value_replaceTexts_of_mem (hk : k ∈ occurrences g r find) :
    (g.replaceTexts r find new).value k = replaceValue find new (g.value k) := by
  obtain ⟨c, hc, haffected⟩ := mem_occurrences_iff_exists.1 hk
  rw [value, value, getElem?_replaceTexts, hc, Option.map_some, if_pos haffected]
  rfl

@[simp] theorem formula?_replaceTexts (g : Grid) (r : Range) (find new : String) (k : Address) :
    (g.replaceTexts r find new).formula? k = g.formula? k := by
  rw [formula?, formula?, getElem?_replaceTexts]
  cases g[k]? with
  | none => rfl
  | some c =>
    simp only [Option.map_some, Option.bind_some]
    split <;> rfl

@[simp] theorem graph_replaceTexts (g : Grid) (r : Range) (find new : String) :
    (g.replaceTexts r find new).graph = g.graph :=
  graph_congr (formula?_replaceTexts g r find new)

end Grid

namespace Sheet

variable {s t : Sheet} {first last : String} {a b : Address}

/-- The cells that a replacement writes to. -/
def replacedCells (g : Grid) (r : Range) (find : String) : List Address :=
  if find.isEmpty then [] else occurrences g r find

theorem grid_replaceWithin (s : Sheet) (r : Range) (find new : String) :
    (s.replaceWithin r find new).grid =
      (s.grid.replaceTexts r find new).propagate s.registry (occurrences s.grid r find) := rfl

/-- A cell that is written to is not evaluated. -/
theorem value_replaceWithin_of_mem (hk : k ∈ occurrences s.grid r find) :
    (s.replaceWithin r find new).grid.value k = replaceValue find new (s.grid.value k) := by
  have hdep : k ∉ (s.grid.replaceTexts r find new).graph.dependents (occurrences s.grid r find) :=
    fun h => (Graph.mem_dependents_iff.1 h).1 hk
  rw [grid_replaceWithin, Grid.value_congr (Grid.getElem?_propagate hdep),
    Grid.value_replaceTexts_of_mem hk]

theorem isSettledAt_replaceWithin_of_notMem
    (hformulas : s.grid.FormulasSatisfy (Formula.IsReliable s.registry))
    (hsettled : s.grid.IsSettled s.registry) (hk : k ∉ occurrences s.grid r find) :
    (s.replaceWithin r find new).grid.IsSettledAt s.registry k := by
  have hreplaced : (s.grid.replaceTexts r find new).FormulasSatisfy
      (Formula.IsReliable s.registry) := fun a f hf => hformulas a f (by simpa using hf)
  rw [grid_replaceWithin]
  refine Grid.isSettledAt_propagate hreplaced (fun hdep => ?_) fun hs => absurd hs hk
  exact (hsettled k).of_change (fun b hb => (Grid.getElem?_replaceTexts_of_notMem hb).symm) hk hdep
    (hreplaced k)

/-- A cell that is written to and leads to a cycle is marked as before. -/
theorem isSettledAt_replaceWithin_iff (hsettled : s.grid.IsSettled s.registry)
    (hf : (s.replaceWithin r find new).grid.formula? k = some f)
    (hk : k ∈ occurrences s.grid r find) :
    (s.replaceWithin r find new).grid.IsSettledAt s.registry k ↔
      (¬(s.replaceWithin r find new).grid.graph.LeadsToCycle k →
        replaceValue find new (s.grid.value k) =
          Formula.evaluate s.registry (s.replaceWithin r find new).grid.value f) := by
  have hgraph : (s.replaceWithin r find new).grid.graph = s.grid.graph := by
    rw [grid_replaceWithin, Grid.graph_propagate, Grid.graph_replaceTexts]
  rw [Grid.isSettledAt_iff hf, value_replaceWithin_of_mem hk]
  refine and_iff_right fun hcycle => ?_
  rw [hgraph] at hcycle
  rw [(hsettled k).isMarkedAt hcycle]
  rfl

/-- **A replacement leaves only cells stale that it writes to**: the formula cells among these keep
their old value with the text replaced, unless they lead to a cycle. -/
theorem isSettledAt_replace_iff (ha : Address.ofText first = .ok a)
    (hb : Address.ofText last = .ok b)
    (hformulas : s.grid.FormulasSatisfy (Formula.IsReliable s.registry))
    (hsettled : s.grid.IsSettled s.registry) :
    ∃ t, s.replace first last find new =
        .ok ((replacedCells s.grid (.between a b) find).length, t) ∧
      ∀ k f, t.grid.formula? k = some f → (t.grid.IsSettledAt s.registry k ↔
        (k ∈ replacedCells s.grid (.between a b) find → ¬t.grid.graph.LeadsToCycle k →
          replaceValue find new (s.grid.value k) =
            Formula.evaluate s.registry t.grid.value f)) := by
  have hrange : rangeBetween first last = .ok (.between a b) := by
    rw [rangeBetween, ha, hb]
    rfl
  rw [replace, hrange, replacedCells]
  cases find.isEmpty with
  | true => exact ⟨s, rfl, fun k f _ => iff_of_true (hsettled k) (by simp)⟩
  | false =>
    refine ⟨s.replaceWithin (.between a b) find new, rfl, fun k f hf => ?_⟩
    by_cases hk : k ∈ occurrences s.grid (.between a b) find
    · simpa [hk] using isSettledAt_replaceWithin_iff hsettled hf hk
    · simpa [hk] using isSettledAt_replaceWithin_of_notMem hformulas hsettled hk

/-- The second cell holds the text that is replaced because it reads the first one. Its old value
becomes its new value. -/
theorem isSettledAt_replace_own_label :
    let s := (Sheet.blank {} .builtin).run [.setText "A1" "A1", .setText "B1" "=A1"]
    ∃ t, s.replace "A1" "B1" "A1" "x" = .ok (2, t) ∧ t.grid.formula? ⟨0, 1⟩ = some "=A1" ∧
      t.grid.value ⟨0, 1⟩ = .text "x" ∧ t.grid.IsSettledAt s.registry ⟨0, 1⟩ := by
  intro s
  have hcovered : Formula.IsCovered .builtin "=A1" :=
    Formula.isCovered_of_reference (a := ⟨0, 0⟩) (by decide +kernel)
  have hs : s.IsStable .builtin := by
    have hnew : Sheet.new {} .builtin = .ok (Sheet.blank {} .builtin) := rfl
    refine (isStable_of_new hnew).run ?_
    simp [Edit.KeepsSettled, hcovered, show Formula.isFormula "A1" = false by decide]
  have hregistry : s.registry = .builtin := hs.registry_eq
  obtain ⟨t, hreplace, ht⟩ := @isSettledAt_replace_iff "A1" "x" s "A1" "B1" ⟨0, 0⟩ ⟨0, 1⟩
    (by decide +kernel) (by decide +kernel) (hregistry ▸ hs.formulas) (hregistry ▸ hs.settled)
  have hcount : (replacedCells s.grid (.between ⟨0, 0⟩ ⟨0, 1⟩) "A1").length = 2 := by
    decide +kernel
  have hresult : (s.replace "A1" "B1" "A1" "x").map (fun p =>
      (p.2.grid.formula? ⟨0, 1⟩, p.2.grid.value ⟨0, 0⟩, p.2.grid.value ⟨0, 1⟩)) =
        .ok (some "=A1", .text "x", .text "x") := by decide +kernel
  rw [hreplace] at hresult
  obtain ⟨hf, hvalues⟩ := Prod.mk.inj (Except.ok.inj hresult)
  obtain ⟨hread, hvalue⟩ := Prod.mk.inj hvalues
  refine ⟨t, hcount ▸ hreplace, hf, hvalue, (ht _ _ hf).2 fun _ _ => ?_⟩
  have hold : replaceValue "A1" "x" (s.grid.value ⟨0, 1⟩) = .text "x" := by decide +kernel
  have hentry : Formula.Entry.ofText "=A1" = .reference ⟨0, 0⟩ := by decide +kernel
  rw [hold, Formula.evaluate, hentry]
  exact hread.symm

/-- A sum and one of its summands are written to. The summand changes, while the sum keeps its old
value, since the replaced text does not occur in it. -/
theorem not_isSettledAt_replace :
    let s := (Sheet.blank {} .builtin).run [.setText "A1" "1", .setText "B1" "=A1+1"]
    s.grid.FormulasSatisfy (Formula.IsReliable s.registry) ∧ s.grid.IsSettled s.registry ∧
      ∃ t, s.replace "A1" "B1" "1" "2" = .ok (2, t) ∧ t.grid.value ⟨0, 0⟩ = .number 2 ∧
        t.grid.graph.Reads ⟨0, 1⟩ ⟨0, 0⟩ ∧ ¬t.grid.IsSettledAt s.registry ⟨0, 1⟩ := by
  intro s
  have hform : Formula.Entry.ofText "=A1+1" = .expression "A1+1" := by decide +kernel
  have hcovered : Formula.IsCovered .builtin "=A1+1" :=
    (Formula.isCovered_iff_references hform).2 (by decide +kernel)
  have hs : s.IsStable .builtin := by
    have hnew : Sheet.new {} .builtin = .ok (Sheet.blank {} .builtin) := rfl
    refine (isStable_of_new hnew).run ?_
    simp [Edit.KeepsSettled, hcovered, show Formula.isFormula "1" = false by decide]
  have hregistry : s.registry = .builtin := hs.registry_eq
  have hreplace : s.replace "A1" "B1" "1" "2" =
      .ok ((occurrences s.grid (.between ⟨0, 0⟩ ⟨0, 1⟩) "1").length,
        s.replaceWithin (.between ⟨0, 0⟩ ⟨0, 1⟩) "1" "2") := by
    rw [replace, rangeBetween, show Address.ofText "A1" = .ok ⟨0, 0⟩ by decide +kernel,
      show Address.ofText "B1" = .ok ⟨0, 1⟩ by decide +kernel]
    rfl
  have hcount : (occurrences s.grid (.between ⟨0, 0⟩ ⟨0, 1⟩) "1").length = 2 := by decide +kernel
  let t := s.replaceWithin (.between ⟨0, 0⟩ ⟨0, 1⟩) "1" "2"
  have hf : t.grid.formula? ⟨0, 1⟩ = some "=A1+1" := by decide +kernel
  refine ⟨hregistry ▸ hs.formulas, hregistry ▸ hs.settled, t, hcount ▸ hreplace,
    by decide +kernel, ?_, fun hsettled => ?_⟩
  · exact (Grid.reads_graph_iff hf).2 (by decide +kernel)
  · have hvalue := hsettled _ hf
    revert hvalue
    decide +kernel

end Sheet

end Spreadsheet
