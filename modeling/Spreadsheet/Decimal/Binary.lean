/-!
# Binary floating-point numbers taken apart

* `Binary.ofFloat` splits a double into its sign and its `Magnitude`.
* `Binary.Interval` is the range of reals that round to a finite double.
-/

namespace Spreadsheet.Decimal

/-- The size of a double. -/
inductive Magnitude
  /-- The number `mantissa * 2 ^ exponent`. When `lowest` is set, the next smaller double is half
  as far away as the next larger one. -/
  | finite (mantissa : Nat) (exponent : Int) (lowest : Bool)
  | infinite
  | notANumber
  deriving DecidableEq

/-- A double as a sign and a size. -/
structure Binary where
  negative : Bool
  magnitude : Magnitude
  deriving DecidableEq

namespace Binary

/-- The size that the lower 63 bits of a double encode: eleven bits of exponent over fifty-two of
fraction. -/
def magnitudeOfBits (bits : Nat) : Magnitude :=
  let exponent := bits / 4503599627370496
  let fraction := bits % 4503599627370496
  if exponent == 2047 then
    if fraction == 0 then .infinite else .notANumber
  else if exponent == 0 then .finite fraction (-1074) false
  else .finite (4503599627370496 + fraction) (exponent - 1075) (fraction == 0 && 1 < exponent)

/-- The sign and the size that the 64 bits of a double encode. -/
def ofBits (bits : Nat) : Binary :=
  ⟨9223372036854775808 ≤ bits, magnitudeOfBits (bits % 9223372036854775808)⟩

/-- The sign and the size of a double. -/
def ofFloat (x : Float) : Binary :=
  ofBits x.toBits.toNat

/-- A positive number and the reals that round to it, all over one denominator. The ends belong to
the range when `closed` is set. -/
structure Interval where
  low : Nat
  value : Nat
  high : Nat
  denominator : Nat
  closed : Bool

/-- The reals that round to the double `mantissa * 2 ^ exponent`: half-way to its neighbours on
both sides, and ties go to an even mantissa. -/
def interval (mantissa : Nat) (exponent : Int) (lowest : Bool) : Interval :=
  let scale := Nat.pow 2 (exponent - 2).toNat
  { low := (4 * mantissa - if lowest then 1 else 2) * scale
    value := 4 * mantissa * scale
    high := (4 * mantissa + 2) * scale
    denominator := Nat.pow 2 (2 - exponent).toNat
    closed := mantissa % 2 == 0 }

end Binary

end Spreadsheet.Decimal
