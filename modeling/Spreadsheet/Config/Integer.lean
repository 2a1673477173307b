import Spreadsheet.Decimal.Digits

/-!
# Integers in configuration documents

An integer is decimal with an optional sign and no superfluous zeros in front, or it has one of the
prefixes `0x`, `0o` and `0b` and no sign. Single underscores may stand between digits. Its value
fits a signed 64-bit word.

* `integer?` reads an integer.
-/

namespace Spreadsheet.Config

/-- The value of a digit in a base of at most sixteen. -/
def digitValue? (base : Nat) (c : Char) : Option Nat :=
  let value :=
    if c.isDigit then some (c.toNat - 48)
    else if 'a' ≤ c && c ≤ 'f' then some (c.toNat - 87)
    else if 'A' ≤ c && c ≤ 'F' then some (c.toNat - 55)
    else none
  value.filter (· < base)

/-- The value of a number whose first digits have been read as `n`; an underscore has to stand
before a digit. -/
def digitsFrom (base n : Nat) : List Char → Option Nat
  | [] => some n
  | '_' :: c :: rest => (digitValue? base c).bind fun d => digitsFrom base (n * base + d) rest
  | c :: rest => (digitValue? base c).bind fun d => digitsFrom base (n * base + d) rest

/-- A number of one or more digits. -/
def digits? (base : Nat) : List Char → Option Nat
  | [] => none
  | c :: rest => (digitValue? base c).bind fun d => digitsFrom base d rest

/-- A decimal number, which starts with a zero only if it is one digit long. -/
def decimal? : List Char → Option Nat
  | ['0'] => some 0
  | '0' :: _ => none
  | text => digits? 10 text

/-- A number of any sign and base, not yet bounded. -/
def unbounded? : List Char → Option Int
  | '0' :: 'x' :: text => (digits? 16 text).map Int.ofNat
  | '0' :: 'o' :: text => (digits? 8 text).map Int.ofNat
  | '0' :: 'b' :: text => (digits? 2 text).map Int.ofNat
  | '-' :: text => (decimal? text).map fun n => -(n : Int)
  | '+' :: text => (decimal? text).map Int.ofNat
  | text => (decimal? text).map Int.ofNat

/-- An integer. -/
def integer? (text : List Char) : Option Int :=
  (unbounded? text).filter fun n => -9223372036854775808 ≤ n && n ≤ 9223372036854775807

end Spreadsheet.Config
