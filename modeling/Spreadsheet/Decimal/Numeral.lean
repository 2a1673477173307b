import Spreadsheet.Decimal.Digits

/-!
# Decimal numerals

A numeral is a run of digits with at most one decimal point, at least one digit, and an optional
exponent after `e` or `E`. A number may also be a word for infinity or for a non-number, in either
case, and may have a sign.

* `Numeral.ofChars?` reads an unsigned numeral; `Numeral.toFloat` rounds it to the nearest double.
* `read?` reads a number.
-/

namespace Spreadsheet.Decimal

/-- The number `digits * 10 ^ exponent` as it was written, with the count of the digits written. -/
structure Numeral where
  digits : Nat
  length : Nat
  exponent : Int
  deriving DecidableEq, Repr

/-- A whole number with an optional sign. -/
def integer? : List Char → Option Int
  | '-' :: text => (natural? text).map fun n => -(n : Int)
  | '+' :: text => (natural? text).map Int.ofNat
  | text => (natural? text).map Int.ofNat

/-- The exponent that follows the digits of a numeral: none, or a mark and a whole number. -/
def exponent? : List Char → Option Int
  | [] => some 0
  | mark :: text => if mark == 'e' || mark == 'E' then integer? text else none

namespace Numeral

/-- The digits after a decimal point, if there is one, and the rest of the text. -/
def fraction : List Char → List Char × List Char
  | '.' :: text => (text.takeWhile Char.isDigit, text.dropWhile Char.isDigit)
  | text => ([], text)

/-- The numeral that a text writes. -/
def ofChars? (text : List Char) : Option Numeral :=
  let whole := text.takeWhile Char.isDigit
  let (places, rest) := fraction (text.dropWhile Char.isDigit)
  let digits := whole ++ places
  if digits.isEmpty then none
  else (exponent? rest).map fun e => ⟨digitsValue digits, digits.length, e - places.length⟩

/-- The double nearest to a numeral. Doubles lie between `10 ^ -400` and `10 ^ 400`, so a numeral
beyond these bounds is infinite or zero whatever its digits. -/
def toFloat (n : Numeral) : Float :=
  if n.digits == 0 then 0
  else if 400 < n.exponent then 1 / 0
  else if n.exponent + n.length < -400 then 0
  else Float.ofScientific n.digits (n.exponent < 0) n.exponent.natAbs

end Numeral

/-- The number that a word stands for. -/
def ofWord? (text : List Char) : Option Float :=
  match String.ofList (text.map Char.toLower) with
  | "inf" | "infinity" => some (1 / 0)
  | "nan" => some (0 / 0)
  | _ => none

/-- An unsigned number. -/
def unsigned? (text : List Char) : Option Float :=
  match Numeral.ofChars? text with
  | some n => some n.toFloat
  | none => ofWord? text

/-- The number that a text writes. -/
def read? : List Char → Option Float
  | '-' :: text => (unsigned? text).map fun x => -x
  | '+' :: text => unsigned? text
  | text => unsigned? text

end Spreadsheet.Decimal
