import Spreadsheet.Address
import Std.Data.ExtTreeSet

/-!
# Sets of addresses

* `AddressSet` is a finite set of addresses.
* `Address.distinct` keeps the first occurrence of every address of a list.
-/

namespace Spreadsheet

/-- A finite set of addresses. -/
abbrev AddressSet := Std.ExtTreeSet Address

/-- The set of the addresses of a list. -/
def AddressSet.ofList (addresses : List Address) : AddressSet :=
  addresses.foldl (fun set a => set.insert a) ∅

namespace Address

/-- The addresses met so far: as a set, and in the order in which each was first met. -/
structure Encounters where
  seen : AddressSet := ∅
  order : Array Address := #[]

/-- Meet one more address. -/
def Encounters.meet (e : Encounters) (a : Address) : Encounters :=
  if a ∈ e.seen then e else ⟨e.seen.insert a, e.order.push a⟩

/-- The addresses of a list without repetitions, each at its first place. -/
def distinct (addresses : List Address) : List Address :=
  (addresses.foldl Encounters.meet {}).order.toList

end Address

end Spreadsheet
