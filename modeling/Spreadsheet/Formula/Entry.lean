import Spreadsheet.Formula.Argument
import Spreadsheet.Range

/-!
# Entries

An entry is the text that is typed into a cell. One that starts with an equals sign is a formula.

* `Entry` is the form of an entry, and `Entry.ofText` finds it. Every text has a form: a formula
  that is no reference, range or call is an expression.
-/

namespace Spreadsheet.Formula

/-- The form of the text in a cell. -/
inductive Entry
  /-- Text that is no formula. -/
  | literal (text : String)
  /-- `=B7`: another cell. -/
  | reference (cell : Address)
  /-- A text shaped like a label that names no cell, as in `=A0`. -/
  | unresolved (label : String)
  /-- `=A1:B3`, kept as the whole text. -/
  | range (text : String)
  /-- `=NAME(argument, argument)`. -/
  | call (name : String) (arguments : List String)
  /-- Anything else after the equals sign. -/
  | expression (body : String)
  deriving DecidableEq, Repr

/-- The characters of function names. -/
def isNameChar (c : Char) : Bool :=
  c.isUpper || c == '_'

/-- The text between the first and the last parenthesis, if the text starts with one and ends with
another. -/
def enclosed? : List Char → Option (List Char)
  | '(' :: rest =>
    match rest.getLast? with
    | some ')' => some rest.dropLast
    | _ => none
  | _ => none

/-- The name and the argument list of a call: the parentheses after the name have to belong
together and enclose all that follows. -/
def call? (body : List Char) : Option (List Char × List Char) := do
  let name := body.takeWhile isNameChar
  let list ← enclosed? (body.dropWhile isNameChar)
  if !name.isEmpty && isBalanced list then some (name, list) else none

/-- The form of a formula, given the text after its equals sign. -/
def Entry.ofBody (body : List Char) : Entry :=
  if Address.isLabelShaped body then
    match Address.ofLabel? body with
    | some a => .reference a
    | none => .unresolved (String.ofList body)
  else if Range.isRangeShaped body then .range (String.ofList ('=' :: body))
  else match call? body with
    | some (name, list) =>
      .call (String.ofList name) ((splitArguments list).map String.ofList)
    | none => .expression (String.ofList body)

/-- The form of an entry. -/
def Entry.ofText (text : String) : Entry :=
  match text.toList with
  | '=' :: body => .ofBody body
  | _ => .literal text

/-- Whether a text is a formula. -/
def isFormula (text : String) : Bool :=
  text.toList.head? == some '='

end Spreadsheet.Formula
