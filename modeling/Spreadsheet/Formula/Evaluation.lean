import Spreadsheet.Expression.Reading
import Spreadsheet.Formula.Dependency
import Spreadsheet.Formula.Entry
import Spreadsheet.Registry.Basic

/-!
# Evaluating entries

An entry is evaluated over the values of other cells and the functions of a registry. Evaluation
always gives a value: what goes wrong is a `CellError`.

* `Cells` gives the value of every cell, `Value.null` for an empty one.
* `evaluate` is the value of an entry.
* A call resolves its arguments (`resolve`) and applies a function; an expression has the values of
  its references written into it (`substitute`) before it is evaluated.
-/

namespace Spreadsheet.Formula

/-- The value of every cell. -/
abbrev Cells := Address → Value

/-! ## Calls -/

/-- The text between quotation marks at both ends of a text. -/
def unquoted? : List Char → Option (List Char)
  | '"' :: rest =>
    match rest.getLast? with
    | some '"' => some rest.dropLast
    | _ => none
  | _ => none

/-- The value of an argument that is no range: a cell, a number, a text between quotation marks,
or the argument itself as a text. -/
def resolveSingle (cells : Cells) (argument : List Char) : Value :=
  match Address.ofLabel? argument with
  | some a => cells a
  | none =>
    match Value.finiteNumber? argument with
    | some x => .number x
    | none => .text (String.ofList ((unquoted? argument).getD argument))

/-- The range that an argument names. -/
def rangeArgument? (argument : List Char) : Option Range :=
  if Range.isRangeShaped argument then Range.ofText? argument else none

/-- The values of an argument: one, or those of all cells of a range. A range that is too large is
an error. -/
def resolve (cells : Cells) (argument : List Char) : Except CellError (List Value) :=
  match rangeArgument? argument with
  | some r =>
    match r.expansion? with
    | some addresses => .ok (addresses.map cells)
    | none => .error .reference
  | none => .ok [resolveSingle cells argument]

/-- The values of all arguments in a row, or the first error. -/
def resolveAll (cells : Cells) (arguments : List String) : Except CellError (List Value) :=
  (arguments.mapM fun a => resolve cells a.toList).map List.flatten

/-- The value of a call. -/
def callValue (registry : Registry) (cells : Cells) (name : String) (arguments : List String) :
    Value :=
  match registry.get? name with
  | none => .error (.unknownFunction name)
  | some operation =>
    match resolveAll cells arguments with
    | .ok values => operation values
    | .error e => .error e

/-! ## Expressions -/

/-- Why a value cannot stand in an expression. -/
def obstacle? : Value → Option CellError
  | .null => some .reference
  | .error e => some e
  | _ => none

/-- A value as an expression writes it: a number by its digits, anything else as a string
literal. -/
def valueLiteral : Value → List Char
  | .number x => Decimal.displayChars x
  | v => encodeLiteral v.display.toList

/-- A word of an expression with the value of the cell that it names in its place. -/
def substituteWord (cells : Cells) (word : List Char) : List Char :=
  match Address.ofLabel? word with
  | some a => valueLiteral (cells a)
  | none => word

/-- A segment of an expression with values in the place of its references. -/
def substituteSegment (cells : Cells) : Segment → List Char
  | .literal text => text
  | .code text => (Text.pieces text).flatMap (substituteWord cells)

/-- An expression with values in the place of its references. -/
def substitute (cells : Cells) (body : List Char) : List Char :=
  (segments body).flatMap (substituteSegment cells)

/-- The value of an expression. The first reference whose value cannot stand in it decides, if
there is one. -/
def expressionValue (cells : Cells) (body : List Char) : Value :=
  match (references body).findSome? fun a => obstacle? (cells a) with
  | some e => .error e
  | none =>
    match Expression.evaluate (substitute cells body) with
    | .ok v => v
    | .error _ => .error .fault

/-! ## Entries -/

/-- The value of an entry of a known form. -/
def Entry.value (registry : Registry) (cells : Cells) : Entry → Value
  | .literal text => .ofLiteral text
  | .reference a => cells a
  | .unresolved _ => .null
  | .range text => .text text
  | .call name arguments => callValue registry cells name arguments
  | .expression body => expressionValue cells body.toList

/-- The value of an entry. -/
def evaluate (registry : Registry) (cells : Cells) (text : String) : Value :=
  (Entry.ofText text).value registry cells

end Spreadsheet.Formula
