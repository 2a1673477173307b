import Spreadsheet.Address
import Spreadsheet.Formula.Entry
import Spreadsheet.Style
import Spreadsheet.Value

/-!
# Cells and grids

* A `Cell` keeps the text that was entered, the formula if it is one, the computed value and the
  style.
* A `Grid` stores the cells of a sheet by their addresses. A cell that is not stored is empty. Two
  grids are equal when they store equal cells at the same addresses.
* `Grid.value` and `Grid.formula?` read the grid as evaluation does.
-/

namespace Spreadsheet

/-- A cell of a sheet. -/
structure Cell where
  /-- The text as it was entered. -/
  raw : String := ""
  /-- The text that is evaluated, if the cell holds a formula. -/
  formula : Option String := none
  /-- The result of the last evaluation. -/
  computed : Value := .null
  style : Style := {}
  deriving DecidableEq, Inhabited, Repr

namespace Cell

/-- The cell with another text entered. Its value is yet to be computed. -/
def enter (c : Cell) (text : String) : Cell :=
  { c with raw := text, formula := if Formula.isFormula text then some text else none }

/-- The cell with another computed value. -/
def compute (c : Cell) (v : Value) : Cell :=
  { c with computed := v }

end Cell

/-- The stored cells of a sheet. -/
abbrev Grid := Std.ExtTreeMap Address Cell

namespace Grid

/-- The computed value at an address; nothing if no cell is stored there. -/
def value (g : Grid) (a : Address) : Value :=
  match g[a]? with
  | some c => c.computed
  | none => .null

/-- The formula stored at an address. -/
def formula? (g : Grid) (a : Address) : Option String :=
  g[a]?.bind Cell.formula

/-- The text entered at an address; the empty text if no cell is stored there. -/
def raw (g : Grid) (a : Address) : String :=
  match g[a]? with
  | some c => c.raw
  | none => ""

/-- The grid with another computed value in a stored cell. -/
def setValue (g : Grid) (a : Address) (v : Value) : Grid :=
  g.modify a fun c => c.compute v

/-- The stored cells whose address satisfies a test. -/
def restrict (g : Grid) (p : Address → Bool) : Grid :=
  g.filter fun a _ => p a

/-- The grid with every cell moved where `move` sends its address; cells that it sends nowhere are
dropped. -/
def relocate (g : Grid) (move : Address → Option Address) : Grid :=
  .ofList (g.toList.filterMap fun entry => (move entry.1).map fun a => (a, entry.2))

theorem mem_iff_exists {g : Grid} {a : Address} : a ∈ g ↔ ∃ c, g[a]? = some c :=
  Std.ExtTreeMap.mem_iff_isSome_getElem?.trans Option.isSome_iff_exists

/-! ## What is stored afterwards -/

theorem getElem?_setValue (g : Grid) (a b : Address) (v : Value) :
    (g.setValue a v)[b]? = if a = b then g[b]?.map (·.compute v) else g[b]? := by
  unfold setValue
  rw [Std.ExtTreeMap.getElem?_modify]
  by_cases h : a = b
  · simp [h]
  · simp [h]

/-- Computing a value leaves all formulas as they are. -/
@[simp] theorem formula?_setValue (g : Grid) (a b : Address) (v : Value) :
    (g.setValue a v).formula? b = g.formula? b := by
  unfold formula?
  rw [getElem?_setValue]
  split
  · cases g[b]? <;> rfl
  · rfl

theorem getElem?_restrict (g : Grid) (p : Address → Bool) (a : Address) :
    (g.restrict p)[a]? = if p a then g[a]? else none := by
  unfold restrict
  rw [Std.ExtTreeMap.getElem?_filter']
  cases g[a]? with
  | none => simp
  | some c => simp [Option.filter_some]

/-- The cells after a move and their new addresses, as pairs. -/
theorem mem_relocated {g : Grid} {move : Address → Option Address} {k : Address} {c : Cell} :
    (k, c) ∈ g.toList.filterMap (fun entry => (move entry.1).map fun a => (a, entry.2)) ↔
      ∃ a, move a = some k ∧ g[a]? = some c := by
  simp only [List.mem_filterMap, Option.map_eq_some_iff, Prod.mk.injEq, Prod.exists]
  constructor
  · rintro ⟨a, d, hd, k', hk, rfl, rfl⟩
    exact ⟨a, hk, Std.ExtTreeMap.mem_toList_iff_getElem?_eq_some.1 hd⟩
  · rintro ⟨a, hk, hc⟩
    exact ⟨a, c, Std.ExtTreeMap.mem_toList_iff_getElem?_eq_some.2 hc, k, hk, rfl, rfl⟩

/-- A move that sends no two cells to one place gives every cell an address of its own. -/
theorem distinct_relocated (g : Grid) {move : Address → Option Address}
    (hinj : ∀ a b k, move a = some k → move b = some k → a = b) :
    (g.toList.filterMap fun entry => (move entry.1).map fun a => (a, entry.2)).Pairwise
      fun x y => ¬compare x.1 y.1 = .eq := by
  rw [List.pairwise_filterMap]
  refine Std.ExtTreeMap.distinct_keys_toList.imp fun {x y} hxy p hp q hq hpq => hxy ?_
  obtain ⟨i, hi, rfl⟩ := Option.map_eq_some_iff.1 hp
  obtain ⟨j, hj, rfl⟩ := Option.map_eq_some_iff.1 hq
  obtain rfl : i = j := Std.LawfulEqOrd.eq_of_compare hpq
  rw [hinj _ _ _ hi hj]
  exact Std.ReflOrd.compare_self

/-- After a move that sends no two cells to one place, a cell is stored where the move sent one. -/
theorem getElem?_relocate (g : Grid) {move : Address → Option Address}
    (hinj : ∀ a b k, move a = some k → move b = some k → a = b) {k : Address} {c : Cell} :
    (g.relocate move)[k]? = some c ↔ ∃ a, move a = some k ∧ g[a]? = some c := by
  rw [← mem_relocated]
  have hget {d : Cell} (hd : (k, d) ∈ g.toList.filterMap fun entry =>
      (move entry.1).map fun a => (a, entry.2)) : (g.relocate move)[k]? = some d :=
    Std.ExtTreeMap.getElem?_ofList_of_mem Std.ReflOrd.compare_self (g.distinct_relocated hinj) hd
  constructor
  · intro h
    have hk : k ∈ g.relocate move := mem_iff_exists.2 ⟨c, h⟩
    obtain ⟨⟨k', d⟩, hd, rfl⟩ := List.mem_map.1
      (List.contains_iff_mem.1 (Std.ExtTreeMap.mem_ofList.1 hk))
    rw [← Option.some.inj ((hget hd).symm.trans h)]
    exact hd
  · exact hget

/-- After a move that sends no two cells to one place, all cells are there that it did not drop. -/
theorem size_relocate (g : Grid) {move : Address → Option Address}
    (hinj : ∀ a b k, move a = some k → move b = some k → a = b) :
    (g.relocate move).size + (g.keys.filter fun a => (move a).isNone).length = g.size := by
  have hkept : (g.relocate move).size = g.keys.countP fun a => (move a).isSome := by
    rw [relocate, Std.ExtTreeMap.size_ofList (g.distinct_relocated hinj),
      List.length_filterMap_eq_countP, ← Std.ExtTreeMap.map_fst_toList_eq_keys, List.countP_map]
    simp [Function.comp_def]
  have hdropped : (g.keys.countP fun a => decide ¬(move a).isSome = true) =
      g.keys.countP fun a => (move a).isNone :=
    List.countP_congr fun a _ => by simp
  rw [hkept, ← List.countP_eq_length_filter, ← hdropped, ← Std.ExtTreeMap.length_keys]
  exact (List.length_eq_countP_add_countP _).symm

end Grid

end Spreadsheet
