import Spreadsheet.Decimal.Shortest

/-!
# How numbers are shown

A number is shown in positional notation with the fewest digits that read back, never with an
exponent, and without a decimal point when it is whole. Both zeros are shown as `0`.
-/

namespace Spreadsheet.Decimal

/-- Zeros in a row. -/
def zeros (n : Nat) : List Char :=
  List.replicate n '0'

/-- A positive decimal number in positional notation. -/
def positional (d : Scaled) : List Char :=
  let digits := Nat.toDigits 10 d.digits
  match d.exponent with
  | .ofNat n => digits ++ zeros n
  | .negSucc k =>
    let places := k + 1
    let padded := zeros (places + 1 - digits.length) ++ digits
    let whole := padded.length - places
    padded.take whole ++ '.' :: padded.drop whole

/-- The size of a number in digits. -/
def displayMagnitude : Magnitude → List Char
  | .finite mantissa exponent lowest =>
    if mantissa == 0 then ['0'] else positional (shortest mantissa exponent lowest)
  | .infinite => ['i', 'n', 'f']
  | .notANumber => ['N', 'a', 'N']

/-- Whether a number is shown with a minus sign: zeros and non-numbers are not. -/
def showsSign (b : Binary) : Bool :=
  b.negative && match b.magnitude with
    | .finite mantissa _ _ => mantissa != 0
    | .infinite => true
    | .notANumber => false

/-- The characters by which a number is shown. -/
def displayChars (x : Float) : List Char :=
  let b := Binary.ofFloat x
  let size := displayMagnitude b.magnitude
  if showsSign b then '-' :: size else size

/-- The text by which a number is shown. -/
def display (x : Float) : String :=
  String.ofList (displayChars x)

end Spreadsheet.Decimal
