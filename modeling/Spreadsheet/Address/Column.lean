import Spreadsheet.Address.Coord

/-!
# Column letters

Columns are named by letters in bijective base 26: there is no zero digit, so `Z` is followed by
`AA`.

* `Column.numeral` writes a positive number in letters; `Column.letters` names a column.
* `Column.ordinal` is the number that letters write; `Column.ofLetters?` finds the column.
-/

namespace Spreadsheet.Column

/-- The letter of a digit from 0 to 25. -/
def letter (digit : Nat) : Char :=
  Char.ofNat (65 + digit)

/-- The letters of a one-based number; zero has none. -/
def numeral : Nat → List Char
  | 0 => []
  | n + 1 => numeral (n / 26) ++ [letter (n % 26)]
decreasing_by omega

/-- The letters that name a column. -/
def letters (column : Coord) : List Char :=
  numeral (column.val + 1)

/-- The one-based number that letters write. -/
def ordinal (letters : List Char) : Nat :=
  letters.foldl (fun n c => n * 26 + (c.toNat - 64)) 0

/-- The column that letters name: one or more capital letters of a number that fits the axis. -/
def ofLetters? (letters : List Char) : Option Coord :=
  if letters.all Char.isUpper then Coord.ofOrdinal? (ordinal letters) else none

end Spreadsheet.Column
