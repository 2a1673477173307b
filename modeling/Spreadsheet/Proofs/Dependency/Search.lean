import Mathlib.Data.List.Chain
import Mathlib.Data.List.Duplicate
import Spreadsheet.Proofs.Dependency.Cycle

/-!
# The search for cycles

The cycle check follows one formula after another, and nothing in the search counts how far it has
come. This module gives the search by rules, in which every cell is looked up among all formulas.

* `Graph.Walks` are the rules. They answer every search, and in one way only (`Graph.walks_iff`):
  the search ends, whatever the formulas.
* `Graph.leadsToCycle_iff_exists_path`: a cycle can be reached from a cell if and only if some path
  from that cell visits a cell twice.
* `Graph.hasCycle_iff_exists_path`: the check ends and answers whether there is such a path.
-/

namespace Spreadsheet.Graph

open Relation

/-! ## The rules of the search -/

/-- The search along a list of cells, with the cells on its path and the cells that it has cleared.
The answer is the cleared cells, or `none` if a cycle is found. -/
inductive Walks (g : Graph) :
    AddressSet → AddressSet → List Address → Option AddressSet → Prop
  /-- All cells have been looked at. -/
  | done {path cleared : AddressSet} : Walks g path cleared [] (some cleared)
  /-- The search comes back to its path. -/
  | back {path cleared : AddressSet} {a : Address} {cells : List Address} (ha : a ∈ path) :
    Walks g path cleared (a :: cells) none
  /-- A cell that is cleared already. -/
  | skip {path cleared : AddressSet} {a : Address} {cells : List Address}
    {answer : Option AddressSet} (hp : a ∉ path) (hc : a ∈ cleared)
    (hcells : Walks g path cleared cells answer) : Walks g path cleared (a :: cells) answer
  /-- A cell without a formula. -/
  | pass {path cleared : AddressSet} {a : Address} {cells : List Address}
    {answer : Option AddressSet} (hp : a ∉ path) (hc : a ∉ cleared) (ha : g[a]? = none)
    (hcells : Walks g path cleared cells answer) : Walks g path cleared (a :: cells) answer
  /-- A formula from which the search comes back to its path. -/
  | fail {path cleared : AddressSet} {a : Address} {cells reads : List Address} (hp : a ∉ path)
    (hc : a ∉ cleared) (ha : g[a]? = some reads)
    (hreads : Walks g (path.insert a) cleared reads none) : Walks g path cleared (a :: cells) none
  /-- A formula that is cleared by following it. -/
  | clear {path cleared set : AddressSet} {a : Address} {cells reads : List Address}
    {answer : Option AddressSet} (hp : a ∉ path) (hc : a ∉ cleared) (ha : g[a]? = some reads)
    (hreads : Walks g (path.insert a) cleared reads (some set))
    (hcells : Walks g path (set.insert a) cells answer) : Walks g path cleared (a :: cells) answer

variable {g remaining : Graph} {path cleared : AddressSet} {a origin : Address}
  {cells reads : List Address} {answer : Option AddressSet}

/-- The rules answer a search as `walk` does. -/
theorem walks_walk (g remaining : Graph) (path cleared : AddressSet) (cells : List Address)
    (hremaining : ∀ b, b ∉ path → remaining[b]? = g[b]?) :
    g.Walks path cleared cells (walk remaining path cleared cells) := by
  induction remaining, path, cleared, cells using walk.induct with
  | case1 remaining path cleared cells ih =>
    induction cells generalizing cleared with
    | nil =>
      rw [walk_nil]
      exact .done
    | cons a cells ihcells =>
      by_cases hp : a ∈ path
      · rw [walk_cons_of_mem_path hp]
        exact .back hp
      by_cases hc : a ∈ cleared
      · rw [walk_cons_of_mem_cleared hp hc]
        exact .skip hp hc (ihcells cleared)
      cases ha : remaining[a]? with
      | none =>
        rw [walk_cons_of_getElem?_eq_none hp hc ha]
        exact .pass hp hc (by rw [← hremaining a hp, ha]) (ihcells cleared)
      | some reads =>
        have hga : g[a]? = some reads := by rw [← hremaining a hp, ha]
        have inner := ih cleared a reads ha (getElem?_erase_of_agree hremaining)
        rw [walk_cons_of_getElem?_eq_some hp hc ha]
        cases hinner : walk (remaining.erase a) (path.insert a) cleared reads with
        | none => exact .fail hp hc hga (hinner ▸ inner)
        | some set => exact .clear hp hc hga (hinner ▸ inner) (ihcells (set.insert a))

/-- The rules leave no choice. -/
theorem Walks.eq_walk (h : g.Walks path cleared cells answer)
    (hremaining : ∀ b, b ∉ path → remaining[b]? = g[b]?) :
    answer = walk remaining path cleared cells := by
  induction h generalizing remaining with
  | done => rw [walk_nil]
  | back ha => rw [walk_cons_of_mem_path ha]
  | skip hp hc _ ih => rw [walk_cons_of_mem_cleared hp hc, ih hremaining]
  | pass hp hc ha _ ih =>
    rw [walk_cons_of_getElem?_eq_none hp hc (by rw [hremaining _ hp, ha]), ih hremaining]
  | fail hp hc ha _ ih =>
    rw [walk_cons_of_getElem?_eq_some hp hc (by rw [hremaining _ hp, ha]),
      ← ih (getElem?_erase_of_agree hremaining)]
    rfl
  | clear hp hc ha _ _ ihreads ihcells =>
    rw [walk_cons_of_getElem?_eq_some hp hc (by rw [hremaining _ hp, ha]),
      ← ihreads (getElem?_erase_of_agree hremaining), Option.bind_some, ihcells hremaining]

/-- **Every search ends**, with the answer of `walk`: the rules reach it, and no other. -/
theorem walks_iff (hremaining : ∀ b, b ∉ path → remaining[b]? = g[b]?) :
    g.Walks path cleared cells answer ↔ answer = walk remaining path cleared cells := by
  constructor
  · intro h
    exact h.eq_walk hremaining
  · rintro rfl
    exact walks_walk g remaining path cleared cells hremaining

/-- The search of the check at a cell. -/
theorem walks_origin_iff : g.Walks {origin} ∅ reads answer ↔
    answer = walk (g.erase origin) {origin} ∅ reads :=
  walks_iff fun b hb => by
    have hob : origin ≠ b := fun h => hb (by simp [h])
    rw [Std.ExtTreeMap.getElem?_erase, if_neg (by simpa using hob)]

/-! ## Paths that visit a cell twice -/

/-- All cells of a path are reached from the cells before them. -/
theorem pairwise_transGen_of_isChain {path : List Address} (h : path.IsChain g.Reads) :
    path.Pairwise (TransGen g.Reads) :=
  List.isChain_iff_pairwise.1 (h.imp fun _ _ => .single)

/-- **A cycle can be reached** if and only if some path visits a cell twice. -/
theorem leadsToCycle_iff_exists_path :
    g.LeadsToCycle a ↔
      ∃ path : List Address, path.head? = some a ∧ path.IsChain g.Reads ∧ ¬path.Nodup := by
  constructor
  · rintro ⟨b, hab, hbb⟩
    obtain ⟨c, hbc, hcb⟩ := TransGen.head'_iff.1 hbb
    -- the path leads to the cycle first and then once around it
    obtain ⟨there, hthere, hlast⟩ := List.exists_isChain_cons_of_relationReflTransGen hab
    obtain ⟨around, haround, hlast'⟩ := List.exists_isChain_cons_of_relationReflTransGen hcb
    refine ⟨(a :: there) ++ (c :: around), rfl, hthere.append haround ?_, fun hnodup => ?_⟩
    · intro x hx y hy
      rw [List.getLast?_eq_some_getLast (List.cons_ne_nil _ _), hlast] at hx
      obtain rfl := Option.mem_some_iff.1 hx
      obtain rfl : c = y := by simpa using hy
      exact hbc
    · have hb : b ∈ a :: there := hlast ▸ List.getLast_mem _
      have hb' : b ∈ c :: around := hlast' ▸ List.getLast_mem _
      exact (List.nodup_append.1 hnodup).2.2 b hb b hb' rfl
  · rintro ⟨path, hhead, hchain, hnodup⟩
    obtain ⟨b, hb⟩ := List.exists_duplicate_iff_not_nodup.2 hnodup
    have hpairs := pairwise_transGen_of_isChain hchain
    have hbb : TransGen g.Reads b b := by
      simpa using hpairs.sublist (List.duplicate_iff_sublist.1 hb)
    obtain ⟨rest, rfl⟩ := List.head?_eq_some_iff.1 hhead
    rcases List.mem_cons.1 hb.mem with rfl | hrest
    · exact leadsToCycle_of_transGen hbb
    · exact ⟨b, ((List.pairwise_cons.1 hpairs).1 b hrest).to_reflTransGen, hbb⟩

/-! ## The check over stored formulas -/

/-- The cell `b` follows `a` when a formula stands at `origin`, in the place of what is stored
there, and every other formula where it is stored. -/
def Follows (formulas : Std.ExtTreeMap Address String) (origin : Address) (formula : String)
    (a b : Address) : Prop :=
  ∃ f, (if a = origin then some formula else formulas[a]?) = some f ∧ b ∈ Formula.dependencies f

theorem reads_insert_ofFormulas (formulas : Std.ExtTreeMap Address String) (origin : Address)
    (formula : String) :
    Reads ((ofFormulas formulas).insert origin (Formula.dependencies formula)) =
      Follows formulas origin formula := by
  funext a b
  by_cases ha : a = origin
  · subst ha
    simp [Reads, Follows]
  · simp [Reads, Follows, ofFormulas, Std.ExtTreeMap.getElem?_insert, ha, Ne.symm ha]

/-- **The cycle check ends and is exact.** The search for a formula at `origin` has one answer; it
finds a cycle if and only if some path from `origin` visits a cell twice, whether or not that is
`origin` itself. -/
theorem hasCycle_iff_exists_path (formulas : Std.ExtTreeMap Address String) (origin : Address)
    (formula : String) :
    (∃ answer,
      (∀ found, (ofFormulas formulas).Walks {origin} ∅ (Formula.dependencies formula) found ↔
        found = answer) ∧
      (ofFormulas formulas).hasCycle origin (Formula.dependencies formula) = answer.isNone) ∧
    ((ofFormulas formulas).hasCycle origin (Formula.dependencies formula) = true ↔
      ∃ path : List Address, path.head? = some origin ∧
        path.IsChain (Follows formulas origin formula) ∧ ¬path.Nodup) := by
  constructor
  · exact ⟨_, fun found => walks_origin_iff, rfl⟩
  · rw [hasCycle_iff, leadsToCycle_iff_exists_path, reads_insert_ofFormulas]

/-- A cycle that does not run through the cell of the formula. -/
example :
    let formulas : Std.ExtTreeMap Address String :=
      .insertMany ∅ [(⟨0, 1⟩, "=C1"), (⟨0, 2⟩, "=B1")]
    (ofFormulas formulas).hasCycle ⟨0, 0⟩ (Formula.dependencies "=B1") = true := by
  decide +kernel

end Spreadsheet.Graph
