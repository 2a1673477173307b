import Mathlib.Logic.Relation
import Mathlib.Tactic.ByContra
import Mathlib.Tactic.Tauto
import Spreadsheet.Dependency.Graph

/-!
# Paths in the dependency graph

A cell without proper value is one from which a cycle of formulas can be reached. This module
states what that means on a graph and how it depends on the graph.

* `Graph.Reads g a b`: the formula at `a` reads `b`. Paths are the closures of this relation.
* `Graph.LeadsToCycle g a`: a path from `a` reaches a cell that lies on a cycle. A cell leads to a
  cycle exactly when it reads one that does (`leadsToCycle_iff`).
* Only the formulas that are reached matter: two graphs that agree on these cannot be told apart
  (`leadsToCycle_congr`), and more edges never undo a cycle (`LeadsToCycle.mono`).
-/

namespace Spreadsheet.Graph

open Relation

variable {g h : Graph} {a b c : Address}

/-- The formula at `a` reads the cell at `b`. -/
def Reads (g : Graph) (a b : Address) : Prop :=
  ∃ cells, g[a]? = some cells ∧ b ∈ cells

/-- A cell that lies on a cycle can be reached from `a`. -/
def LeadsToCycle (g : Graph) (a : Address) : Prop :=
  ∃ b, ReflTransGen g.Reads a b ∧ TransGen g.Reads b b

theorem Reads.mem (h : g.Reads a b) : a ∈ g := by
  obtain ⟨cells, hcells, -⟩ := h
  exact mem_of_getElem? hcells

theorem reads_iff {cells : List Address} (h : g[a]? = some cells) : g.Reads a b ↔ b ∈ cells := by
  simp [Reads, h]

/-! ## Cycles ahead -/

theorem leadsToCycle_of_transGen (h : TransGen g.Reads a a) : g.LeadsToCycle a :=
  ⟨a, .refl, h⟩

theorem LeadsToCycle.of_reads (hab : g.Reads a b) (hb : g.LeadsToCycle b) : g.LeadsToCycle a := by
  obtain ⟨c, hbc, hc⟩ := hb
  exact ⟨c, .head hab hbc, hc⟩

/-- A cell leads to a cycle through one of the cells that it reads. -/
theorem LeadsToCycle.exists_reads (ha : g.LeadsToCycle a) :
    ∃ b, g.Reads a b ∧ g.LeadsToCycle b := by
  obtain ⟨c, hac, hc⟩ := ha
  rcases hac.cases_head with rfl | ⟨b, hab, hbc⟩
  · obtain ⟨b, hab, hba⟩ := TransGen.head'_iff.1 hc
    exact ⟨b, hab, a, hba, hc⟩
  · exact ⟨b, hab, c, hbc, hc⟩

theorem leadsToCycle_iff : g.LeadsToCycle a ↔ ∃ b, g.Reads a b ∧ g.LeadsToCycle b :=
  ⟨LeadsToCycle.exists_reads, fun ⟨_, hab, hb⟩ => hb.of_reads hab⟩

theorem LeadsToCycle.mem (ha : g.LeadsToCycle a) : a ∈ g := by
  obtain ⟨b, hab, -⟩ := ha.exists_reads
  exact hab.mem

/-- A cell that reads another from which it is reached leads to a cycle. -/
theorem LeadsToCycle.of_return (hab : g.Reads a b) (hba : TransGen g.Reads b a) :
    g.LeadsToCycle a :=
  leadsToCycle_of_transGen (.head hab hba)

/-! ## Graphs that agree -/

theorem LeadsToCycle.mono (hgh : ∀ x y, g.Reads x y → h.Reads x y) (ha : g.LeadsToCycle a) :
    h.LeadsToCycle a := by
  obtain ⟨b, hab, hb⟩ := ha
  exact ⟨b, ReflTransGen.mono hgh _ _ hab, TransGen.mono hgh _ _ hb⟩

theorem Reads.of_getElem?_eq (hgh : g[a]? = h[a]?) (hab : g.Reads a b) : h.Reads a b := by
  obtain ⟨cells, hcells, hb⟩ := hab
  exact ⟨cells, hgh ▸ hcells, hb⟩

/-- A path runs through a second graph as well if that has the same formulas along the way. -/
theorem reflTransGen_of_agree (hgh : ∀ x, ReflTransGen g.Reads a x → g[x]? = h[x]?)
    (hab : ReflTransGen g.Reads a b) : ReflTransGen h.Reads a b := by
  induction hab with
  | refl => exact .refl
  | tail hax hxy ih => exact ih.tail (hxy.of_getElem?_eq (hgh _ hax))

/-- What a second graph reaches, the first reaches too if they agree on what the first reaches. -/
theorem reflTransGen_of_agree' (hgh : ∀ x, ReflTransGen g.Reads a x → g[x]? = h[x]?)
    (hab : ReflTransGen h.Reads a b) : ReflTransGen g.Reads a b := by
  induction hab with
  | refl => exact .refl
  | tail _ hxy ih => exact ih.tail (hxy.of_getElem?_eq (hgh _ ih).symm)

theorem LeadsToCycle.of_agree (hgh : ∀ x, ReflTransGen g.Reads a x → g[x]? = h[x]?)
    (ha : g.LeadsToCycle a) : h.LeadsToCycle a := by
  obtain ⟨b, hab, hb⟩ := ha
  refine ⟨b, reflTransGen_of_agree hgh hab, ?_⟩
  obtain ⟨c, hbc, hcb⟩ := TransGen.head'_iff.1 hb
  have hac : ReflTransGen g.Reads a c := hab.tail hbc
  refine TransGen.head'_iff.2 ⟨c, hbc.of_getElem?_eq (hgh b hab), ?_⟩
  exact reflTransGen_of_agree (fun x hcx => hgh x (hac.trans hcx)) hcb

/-- Whether a cell leads to a cycle is decided by the formulas that it reaches. -/
theorem leadsToCycle_congr (hgh : ∀ x, ReflTransGen g.Reads a x → g[x]? = h[x]?) :
    g.LeadsToCycle a ↔ h.LeadsToCycle a := by
  refine ⟨LeadsToCycle.of_agree hgh, LeadsToCycle.of_agree fun x hx => ?_⟩
  exact (hgh x (reflTransGen_of_agree' hgh hx)).symm

end Spreadsheet.Graph
