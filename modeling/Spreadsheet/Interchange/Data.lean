/-!
# Structured data

The values of a sheet are exchanged as structured data: null, truth values, numbers, texts, lists
and records. Whole numbers and numbers with a fraction or an exponent are kept apart.

* `Data` is a piece of structured data.
* `Data.members?` reads the members of a record, `Data.variant?` one of several alternatives.
-/

namespace Spreadsheet

/-- A piece of structured data. The names in a record are distinct. -/
inductive Data
  | null
  | bool (b : Bool)
  | integer (n : Int)
  | decimal (x : Float)
  | text (s : String)
  | list (items : List Data)
  | record (fields : List (String × Data))
  deriving Inhabited, Repr

namespace Data

/-! ## Plain values -/

/-- A truth value. -/
def toBool? : Data → Option Bool
  | bool b => some b
  | _ => none

/-- A text. -/
def toText? : Data → Option String
  | text s => some s
  | _ => none

/-- A whole number from zero to below a bound. -/
def toNat? (bound : Nat) : Data → Option Nat
  | integer (.ofNat n) => if n < bound then some n else none
  | _ => none

/-- A number of either kind. -/
def toFloat? : Data → Option Float
  | integer n => some (Float.ofInt n)
  | decimal x => some x
  | _ => none

/-- An optional value as data: null if there is none. -/
def ofOption {α : Type} (write : α → Data) : Option α → Data
  | none => null
  | some x => write x

/-- An optional member, which may be left out or null. -/
def optional? {α : Type} (read : Data → Option α) : Option Data → Option (Option α)
  | none => some none
  | some null => some none
  | some d => (read d).map some

/-! ## Records and alternatives -/

/-- The members of a record in the order of their names, each with the data it has if any. Other
fields are passed over. A list gives the members in order instead; it may end early only when
`short` is set. -/
def members? (names : List String) (short : Bool) : Data → Option (List (Option Data))
  | list items =>
    let missing := names.length - items.length
    if items.length ≤ names.length && (short || missing == 0) then
      some (items.map some ++ List.replicate missing none)
    else none
  | record fields => some (names.map fun name => fields.lookup name)
  | _ => none

/-- One of several alternatives by its name, with the data it carries if any: a text is a name
alone, a record of one field is a name with data. -/
def variant? : Data → Option (String × Option Data)
  | text name => some (name, none)
  | record [(name, d)] => some (name, some d)
  | _ => none

/-- Whether an alternative that carries no data was given none. -/
def carriesNothing : Option Data → Bool
  | none => true
  | some null => true
  | _ => false

end Data

end Spreadsheet
