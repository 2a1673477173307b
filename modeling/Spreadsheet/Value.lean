import Spreadsheet.Decimal.Display
import Spreadsheet.Decimal.Numeral
import Spreadsheet.Text.Blank

/-!
# Values

What a cell holds once it is computed.

* `Value` is nothing, a number, a text or a `CellError`.
* `Value.display` is the text by which a value is shown.
* `Value.ofLiteral` is the value of a text that is not a formula: a number if it reads as one.
-/

namespace Spreadsheet

/-- Why a cell has no proper value. -/
inductive CellError
  /-- The formula reads its own cell, directly or through other formulas. -/
  | circular
  /-- An expression reads a cell that holds nothing, or an argument names too large a range. -/
  | reference
  /-- The expression cannot be evaluated. -/
  | fault
  /-- The formula calls a function that does not exist. -/
  | unknownFunction (name : String)
  deriving DecidableEq, Repr

/-- The code by which an error is shown in a cell. -/
def CellError.code : CellError → String
  | circular => "#CIRCULAR!"
  | reference => "#REF!"
  | fault => "#ERROR"
  | unknownFunction name => "#ERROR: Unknown function " ++ name

/-- The computed value of a cell. -/
inductive Value
  | null
  | number (x : Float)
  | text (s : String)
  | error (e : CellError)
  deriving DecidableEq, Inhabited, Repr

namespace Value

/-- Whether there is no value. -/
def isNull : Value → Bool
  | null => true
  | _ => false

/-- The number that a value is. -/
def number? : Value → Option Float
  | number x => some x
  | _ => none

/-- The text by which a value is shown; nothing is shown as the empty text. -/
def display : Value → String
  | null => ""
  | number x => Decimal.display x
  | text s => s
  | error e => e.code

/-- The finite number that a text reads as, blanks around it apart. -/
def finiteNumber? (text : List Char) : Option Float :=
  (Decimal.read? (Text.trim text)).filter Float.isFinite

/-- The value of a text that is entered as it is. -/
def ofLiteral (raw : String) : Value :=
  match finiteNumber? raw.toList with
  | some x => number x
  | none => text raw

end Value

end Spreadsheet
