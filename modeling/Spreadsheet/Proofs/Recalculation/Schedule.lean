import Spreadsheet.Proofs.Recalculation.Restoration
import Spreadsheet.Sheet.Content

/-!
# What is recomputed, and in which order

A change to some cells has the formula cells recomputed that depend on them.

* `Grid.schedule` lists the cells that are recomputed, from the first to the last.
* `Grid.mem_schedule_iff`: these are the cells other than the sources from which a source is reached
  along stored formulas (`Grid.DependsOn`). Each is listed once (`Grid.nodup_schedule`), after those
  that it reads unless it leads into a cycle (`Grid.mem_of_schedule_eq`).
* `Grid.value_propagate_of_schedule_eq`: a listed cell ends up with what its formula comes to when
  the cells before it have been recomputed.
* `Sheet.recomputes_dependents_once` puts this together for a sheet.
-/

namespace Spreadsheet

open Relation

namespace Grid

open Spreadsheet.Graph

variable {registry : Registry} {graph : Graph} {g : Grid} {a b : Address} {f : String}
  {before rest cells sources : List Address}

/-- The formula that is stored at `a` reads `b`. -/
def DependsOn (g : Grid) (a b : Address) : Prop :=
  ∃ f, g.formula? a = some f ∧ b ∈ Formula.dependencies f

/-- The dependency graph has an edge for everything that is read. -/
theorem reads_graph (g : Grid) : g.graph.Reads = g.DependsOn := by
  funext a b
  rw [Reads, getElem?_graph, DependsOn]
  cases g.formula? a <;> simp

/-- The cells that are recomputed after a change to the sources, in their order. -/
def schedule (g : Grid) (sources : List Address) : List Address :=
  (g.graph.within (g.graph.dependents sources)).order

theorem propagate_eq_recomputeAll (registry : Registry) (g : Grid) (sources : List Address) :
    g.propagate registry sources = g.recomputeAll registry g.graph (g.schedule sources) := rfl

/-! ## The cells that are listed -/

theorem mem_schedule_iff_mem_dependents :
    a ∈ g.schedule sources ↔ a ∈ g.graph.dependents sources := by
  rw [schedule, mem_order_within_iff]
  exact and_iff_right_of_imp mem_graph_of_dependents

/-- **The dependents are recomputed**, and no other cells. -/
theorem mem_schedule_iff :
    a ∈ g.schedule sources ↔ a ∉ sources ∧ ∃ s ∈ sources, TransGen g.DependsOn a s := by
  rw [mem_schedule_iff_mem_dependents, mem_dependents_iff, reads_graph]

theorem nodup_schedule (g : Grid) (sources : List Address) : (g.schedule sources).Nodup :=
  nodup_order _

theorem exists_formula?_of_mem_schedule (ha : a ∈ g.schedule sources) :
    ∃ f, g.formula? a = some f :=
  Option.isSome_iff_exists.1
    (mem_graph_iff.1 (mem_graph_of_dependents (mem_schedule_iff_mem_dependents.1 ha)))

/-! ## Their order -/

/-- **Precedents come first**: what a cell reads stands before it if it is listed at all, unless the
cell leads into a cycle. -/
theorem mem_of_schedule_eq (hsplit : g.schedule sources = before ++ a :: rest)
    (hf : g.formula? a = some f)
    (hcycle : g.graph.hasCycle a (Formula.dependencies f) = false)
    (hb : b ∈ g.schedule sources) (hab : b ∈ Formula.dependencies f) : b ∈ before := by
  have hreads : g.graph.Reads a b := (reads_graph_iff hf).2 hab
  have hleads : ¬g.graph.LeadsToCycle a := fun h => by
    rw [(hasCycle_graph_iff hf).2 h] at hcycle
    cases hcycle
  have hordered := pairwise_order_within g.graph (g.graph.dependents sources)
  rw [← schedule, hsplit, List.pairwise_append, List.pairwise_cons] at hordered
  rw [hsplit] at hb
  rcases List.mem_append.1 hb with hb | hb
  · exact hb
  rcases List.mem_cons.1 hb with rfl | hb
  · exact absurd (leadsToCycle_of_transGen (.single hreads)) hleads
  · exact absurd (hordered.2.1.1 b hb hreads) hleads

theorem recomputeAll_append (g : Grid) :
    g.recomputeAll registry graph (before ++ cells) =
      (g.recomputeAll registry graph before).recomputeAll registry graph cells :=
  List.foldl_append

/-- A listed cell keeps what its formula comes to at its turn. -/
theorem value_propagate_of_schedule_eq (hsplit : g.schedule sources = before ++ a :: rest)
    (hf : g.formula? a = some f) :
    (g.propagate registry sources).value a =
      (g.recomputeAll registry g.graph before).result registry g.graph a f := by
  have hrest : a ∉ rest := by
    have hnodup := g.nodup_schedule sources
    rw [hsplit, List.nodup_append] at hnodup
    exact (List.nodup_cons.1 hnodup.2.1).1
  rw [propagate_eq_recomputeAll, hsplit, recomputeAll_append, recomputeAll_cons,
    value_congr (getElem?_recomputeAll hrest), value_recompute_self (by simpa using hf)]

/-- Two cells are on a cycle beside a chain of cells that depend on the source. -/
example :
    let g : Grid := .insertMany ∅ [(⟨0, 1⟩, { formula := some "=C1" }),
      (⟨0, 2⟩, { formula := some "=A1" }), (⟨0, 3⟩, { formula := some "=E1" }),
      (⟨0, 4⟩, { formula := some "=D1+B1" }), (⟨0, 5⟩, { formula := some "=G1" })]
    g.schedule [⟨0, 0⟩] = [⟨0, 2⟩, ⟨0, 1⟩, ⟨0, 4⟩, ⟨0, 3⟩] := by
  decide +kernel

end Grid

namespace Sheet

/-- **Propagation recomputes the dependents once each, precedents first.** The cells that are
recomputed after a change to the sources are the formula cells outside the sources from which a
source is reached along one or more stored formulas. In the order of their recomputation each of
them is listed once and given what its formula comes to over the values of that moment; of the
listed cells, those that it reads come before it, unless it leads into a cycle. Nothing else in the
sheet changes. -/
theorem recomputes_dependents_once (s : Sheet) (sources : List Address) :
    let order := s.grid.schedule sources
    let after := s.settle s.grid sources
    after = { s with grid := s.grid.recomputeAll s.registry s.grid.graph order } ∧
    (∀ a, a ∈ order ↔
      (∃ f, s.grid.formula? a = some f) ∧ a ∉ sources ∧
        ∃ b ∈ sources, TransGen s.grid.DependsOn a b) ∧
    order.Nodup ∧
    (∀ before a rest f, order = before ++ a :: rest → s.grid.formula? a = some f →
      after.grid.value a =
        (s.grid.recomputeAll s.registry s.grid.graph before).result s.registry s.grid.graph a f ∧
      (s.grid.graph.hasCycle a (Formula.dependencies f) = false →
        ∀ b ∈ order, b ∈ Formula.dependencies f → b ∈ before)) ∧
    (∀ a, a ∉ order → after.grid[a]? = s.grid[a]?) ∧
    ∀ a : Address, after.grid[a]?.map Cell.uncomputed = s.grid[a]?.map Cell.uncomputed := by
  intro order after
  refine ⟨rfl, fun a => ?_, s.grid.nodup_schedule sources, fun before a rest f hsplit hf => ?_,
    fun a ha => Grid.getElem?_recomputeAll ha, (Grid.SameEntries.refl s.grid).propagate⟩
  · rw [Grid.mem_schedule_iff]
    refine (and_iff_right_of_imp fun h => ?_).symm
    exact Grid.exists_formula?_of_mem_schedule (Grid.mem_schedule_iff.2 h)
  · exact ⟨Grid.value_propagate_of_schedule_eq hsplit hf,
      fun hcycle b hb hab => Grid.mem_of_schedule_eq hsplit hf hcycle hb hab⟩

end Sheet

end Spreadsheet
