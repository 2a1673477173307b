import Spreadsheet.Value
import Std.Data.ExtTreeMap

/-!
# Functions for formulas

A registry holds the functions that formulas may call, by name. Functions are registered under
capital letters and looked up by their exact name.

* `Registry.register` adds or replaces a function, `Registry.get?` looks one up.
* `Registry.names` lists the names in order.
-/

namespace Spreadsheet

/-- A function of the values of its arguments. -/
abbrev Operation := List Value → Value

/-- The functions that formulas may call. -/
structure Registry where
  operations : Std.ExtTreeMap String Operation

namespace Registry

/-- No functions at all. -/
def empty : Registry :=
  ⟨∅⟩

/-- A name in capitals, as far as its letters are ASCII. -/
def canonical (name : String) : String :=
  String.ofList (name.toList.map Char.toUpper)

/-- The function of a name. -/
def get? (r : Registry) (name : String) : Option Operation :=
  r.operations[name]?

/-- Whether there is a function of a name. -/
def contains (r : Registry) (name : String) : Bool :=
  r.operations.contains name

/-- The registry with one more function, in the place of any other of its name. -/
def register (r : Registry) (name : String) (operation : Operation) : Registry :=
  ⟨r.operations.insert (canonical name) operation⟩

/-- The names of the functions, in order. -/
def names (r : Registry) : List String :=
  r.operations.keys

end Registry

end Spreadsheet
