import Spreadsheet.Registry.Basic
import Spreadsheet.Text.Case

/-!
# Built-in functions

The functions that every sheet starts with. Aggregates pass over all arguments but numbers; text
functions take the first argument as it is shown.

* `Builtin.all` lists them with their descriptions, `Registry.builtin` is the registry of them.
-/

namespace Spreadsheet

/-- A function with its name and a description of it. -/
structure Builtin where
  name : String
  description : String
  operation : Operation

namespace Builtin

/-- The numbers among some values. -/
def numbers (arguments : List Value) : List Float :=
  arguments.filterMap Value.number?

/-- The sum of some numbers, added up from the left. -/
def total (xs : List Float) : Float :=
  xs.foldl (· + ·) 0

/-- The sum of the numbers. -/
def sum (arguments : List Value) : Value :=
  .number (total (numbers arguments))

/-- The mean of the numbers, zero when there are none. -/
def average (arguments : List Value) : Value :=
  let xs := numbers arguments
  if xs.isEmpty then .number 0 else .number (total xs / Float.ofNat xs.length)

/-- The larger of two numbers; a non-number gives way to the other. -/
def larger (x y : Float) : Float :=
  if x.isNaN then y else if y.isNaN then x else if x < y then y else x

/-- The smaller of two numbers; a non-number gives way to the other. -/
def smaller (x y : Float) : Float :=
  if x.isNaN then y else if y.isNaN then x else if y < x then y else x

/-- The number that remains when a choice between two is made from the left; nothing when there
are no numbers. -/
def choose (choice : Float → Float → Float) (arguments : List Value) : Value :=
  match numbers arguments with
  | [] => .null
  | x :: xs => .number (xs.foldl choice x)

/-- The largest number. -/
def maximum : Operation :=
  choose larger

/-- The smallest number. -/
def minimum : Operation :=
  choose smaller

/-- How many numbers there are. -/
def count (arguments : List Value) : Value :=
  .number (Float.ofNat (numbers arguments).length)

/-- A function of the text of the first argument, which is empty when there is none. -/
def ofText (f : List Char → List Char) (arguments : List Value) : Value :=
  .text (String.ofList (f (arguments.headD .null).display.toList))

/-- The first argument without blanks around it. -/
def trim : Operation :=
  ofText Text.trim

/-- The first argument in upper case. -/
def upper : Operation :=
  ofText Text.upper

/-- The first argument in lower case. -/
def lower : Operation :=
  ofText Text.lower

/-- The built-in functions. -/
def all : List Builtin :=
  [⟨"SUM", "Sum of numeric arguments", sum⟩,
   ⟨"AVERAGE", "Mean of numeric arguments, 0 when there are none", average⟩,
   ⟨"MAX", "Largest numeric argument", maximum⟩,
   ⟨"MIN", "Smallest numeric argument", minimum⟩,
   ⟨"COUNT", "Number of numeric arguments", count⟩,
   ⟨"TRIM", "First argument without leading/trailing whitespace", trim⟩,
   ⟨"UPPER", "First argument in upper case", upper⟩,
   ⟨"LOWER", "First argument in lower case", lower⟩]

end Builtin

/-- The registry of the built-in functions. -/
def Registry.builtin : Registry :=
  Builtin.all.foldl (fun r b => r.register b.name b.operation) Registry.empty

end Spreadsheet
