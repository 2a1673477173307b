/-!
# Coordinates

A coordinate counts the rows or the columns of a sheet from zero in a 64-bit word, so an axis has
two ends and every move along it can fall off.

* `Coord.ofOrdinal?` reads the one-based number by which people name a row or a column.
* `Coord.shift?` moves by a signed distance, `Coord.next?` and `Coord.previous?` by one step; each
  is `none` past an end of the axis.
* `Coord.signed` reads the word in two's complement, and `Coord.distanceTo` is the difference of two
  words read that way, itself a signed word.
-/

namespace Spreadsheet

/-- A zero-based row or column index. -/
abbrev Coord := Fin 18446744073709551616

namespace Coord

/-- The number of coordinates on an axis. -/
def count : Nat := 18446744073709551616

/-- The coordinate of an index, if the axis is that long. -/
def ofNat? (n : Nat) : Option Coord :=
  if h : n < 18446744073709551616 then some ⟨n, h⟩ else none

/-- The coordinate of a signed index, if it lies on the axis. -/
def ofInt? : Int → Option Coord
  | .ofNat n => ofNat? n
  | .negSucc _ => none

/-- The coordinate of a one-based number. The number itself has to fit a 64-bit word, so the last
coordinate of the axis has no number. -/
def ofOrdinal? (n : Nat) : Option Coord :=
  match n with
  | 0 => none
  | k + 1 => (ofNat? (k + 1)).bind fun _ => ofNat? k

/-- The coordinate at a signed distance. -/
def shift? (c : Coord) (distance : Int) : Option Coord :=
  ofInt? (c.val + distance)

/-- The coordinate after `c`. -/
def next? (c : Coord) : Option Coord :=
  ofNat? (c.val + 1)

/-- The coordinate before `c`. -/
def previous? (c : Coord) : Option Coord :=
  match c.val with
  | 0 => none
  | n + 1 => ofNat? n

/-- The coordinate read as a signed 64-bit word: its upper half counts down from zero. -/
def signed (c : Coord) : Int :=
  if c.val < 9223372036854775808 then c.val else c.val - 18446744073709551616

/-- The distance from a coordinate to another one, taken in signed 64-bit words. A difference that
is none wraps around. -/
def distanceTo (c d : Coord) : Int :=
  Int.bmod (d.signed - c.signed) 18446744073709551616

/-- The smaller of two coordinates. -/
def smaller (c d : Coord) : Coord :=
  if c ≤ d then c else d

/-- The larger of two coordinates. -/
def larger (c d : Coord) : Coord :=
  if c ≤ d then d else c

theorem smaller_le_larger (c d : Coord) : smaller c d ≤ larger c d := by
  by_cases h : c ≤ d
  · simp [smaller, larger, h]
  · simpa [smaller, larger, h] using (Fin.le_total c d).resolve_left h

/-! ## What each reading accepts -/

theorem ofNat?_eq_some_iff {n : Nat} {c : Coord} : ofNat? n = some c ↔ c.val = n := by
  unfold ofNat?
  split <;> simp [Fin.ext_iff] <;> omega

theorem ofOrdinal?_eq_some_iff {n : Nat} {c : Coord} :
    ofOrdinal? n = some c ↔ n < count ∧ n = c.val + 1 := by
  cases n with
  | zero => simp [ofOrdinal?]
  | succ k =>
    simp only [ofOrdinal?, Option.bind_eq_some_iff, ofNat?_eq_some_iff, count]
    constructor
    · rintro ⟨d, hd, hc⟩
      exact ⟨by have := d.isLt; omega, by omega⟩
    · rintro ⟨hk, hc⟩
      exact ⟨⟨k + 1, hk⟩, rfl, by omega⟩

theorem shift?_eq_some_iff {c d : Coord} {distance : Int} :
    c.shift? distance = some d ↔ (d.val : Int) = c.val + distance := by
  unfold shift?
  cases h : (c.val : Int) + distance with
  | ofNat n => simp only [ofInt?, ofNat?_eq_some_iff, Int.ofNat_eq_natCast]; omega
  | negSucc n => simp [ofInt?]

@[simp] theorem distanceTo_self (c : Coord) : c.distanceTo c = 0 := by
  simp [distanceTo]

end Coord

end Spreadsheet
