/-!
# Decimal digits

* `digitsValue` is the number that decimal digits write; `natural?` reads a number that consists
  of digits alone.
-/

namespace Spreadsheet.Decimal

/-- The number that decimal digits write. -/
def digitsValue (digits : List Char) : Nat :=
  digits.foldl (fun n c => n * 10 + (c.toNat - 48)) 0

/-- A number that consists of digits alone. -/
def natural? (text : List Char) : Option Nat :=
  if !text.isEmpty && text.all Char.isDigit then some (digitsValue text) else none

end Spreadsheet.Decimal
