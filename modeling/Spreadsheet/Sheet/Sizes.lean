/-!
# Row heights and column widths

An axis of a sheet has one size for each of its configured rows or columns. Inserting and deleting
keep the number of sizes.

* `Sizes.get?` and `Sizes.set` read and write one size; indices beyond the axis have none.
* `Sizes.insert` makes room for a line at an index, `Sizes.delete` takes one away.
* `Sizes.special` lists the sizes that differ from the default.
-/

namespace Spreadsheet

/-- The sizes of the lines of an axis. -/
structure Sizes where
  /-- The size of new lines. -/
  standard : UInt32
  /-- The size of every line. -/
  slots : List UInt32
  deriving DecidableEq, Repr

namespace Sizes

/-- An axis of so many lines of the standard size. -/
def uniform (standard : UInt32) (count : Nat) : Sizes :=
  ⟨standard, List.replicate count standard⟩

/-- The size of a line. -/
def get? (s : Sizes) (i : Nat) : Option UInt32 :=
  s.slots[i]?

/-- The sizes with another size for a line; a line beyond the axis is passed over. -/
def set (s : Sizes) (i : Nat) (size : UInt32) : Sizes :=
  { s with slots := s.slots.set i size }

/-- The sizes after a line of the standard size is inserted and the last line is lost. -/
def insert (s : Sizes) (i : Nat) : Sizes :=
  if i < s.slots.length then { s with slots := (s.slots.insertIdx i s.standard).dropLast } else s

/-- The sizes after a line is deleted and one of the standard size is added at the end. -/
def delete (s : Sizes) (i : Nat) : Sizes :=
  if i < s.slots.length then { s with slots := s.slots.eraseIdx i ++ [s.standard] } else s

/-- The lines whose size is not the standard one, with their sizes. -/
def special (s : Sizes) : List (Nat × UInt32) :=
  s.slots.zipIdx.filterMap fun entry =>
    if entry.1 == s.standard then none else some (entry.2, entry.1)

end Sizes

end Spreadsheet
