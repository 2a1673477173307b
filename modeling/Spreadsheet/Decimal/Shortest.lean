import Spreadsheet.Decimal.Binary

/-!
# The fewest digits that read back

A double is written with the fewest decimal digits that round back to it. A number of `n` digits
lies on a grid of powers of ten, so the search goes over ever finer grids: on each it tries the two
grid points next to the value, and the first grid that has one among the reals that round to the
double wins. Of two such points the nearer is taken, of two equally near the larger.
-/

namespace Spreadsheet.Decimal

/-- The decimal number `digits * 10 ^ exponent`. -/
structure Scaled where
  digits : Nat
  exponent : Int
  deriving DecidableEq, Repr

namespace Binary.Interval

/-- The interval in units of `10 ^ exponent`. -/
def inUnits (r : Interval) (exponent : Int) : Interval :=
  let up := Nat.pow 10 (-exponent).toNat
  { r with
    low := r.low * up
    value := r.value * up
    high := r.high * up
    denominator := r.denominator * Nat.pow 10 exponent.toNat }

/-- Whether a whole number lies in the interval. -/
def holds (r : Interval) (n : Nat) : Bool :=
  let scaled := n * r.denominator
  if r.closed then r.low ≤ scaled && scaled ≤ r.high else r.low < scaled && scaled < r.high

/-- The whole number in the interval that is nearest to the value, if one of the value's two
neighbours is in the interval. -/
def nearest? (r : Interval) : Option Nat :=
  let below := r.value / r.denominator
  let above := below + 1
  match r.holds below, r.holds above with
  | true, true =>
    if r.value - below * r.denominator < above * r.denominator - r.value then some below
    else some above
  | true, false => some below
  | false, true => some above
  | false, false => none

/-- An exponent of ten such that the interval lies below that power of ten. -/
def ceiling (r : Interval) : Int :=
  let bits : Int := r.high.log2 - r.denominator.log2 + 1
  bits * 30103 / 100000 + 1

end Binary.Interval

/-- The number `mantissa * 2 ^ exponent` with all its decimal digits. -/
def exact (mantissa : Nat) : Int → Scaled
  | .ofNat n => ⟨mantissa * Nat.pow 2 n, 0⟩
  | .negSucc k => ⟨mantissa * Nat.pow 5 (k + 1), .negSucc k⟩

/-- The decimal number with the fewest digits that rounds to `mantissa * 2 ^ exponent`. Seventeen
digits always suffice for a double, so a few more grids below the ceiling do; past them the number
is written exactly. -/
def shortest (mantissa : Nat) (exponent : Int) (lowest : Bool) : Scaled :=
  let r := Binary.interval mantissa exponent lowest
  let top := r.ceiling
  let found := (List.range 24).findSome? fun (i : Nat) =>
    let unit : Int := top - i
    ((r.inUnits unit).nearest?).map fun digits => (⟨digits, unit⟩ : Scaled)
  found.getD (exact mantissa exponent)

end Spreadsheet.Decimal
