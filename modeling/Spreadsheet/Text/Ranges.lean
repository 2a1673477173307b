/-!
# Ranges of code points

Tables of character properties list ranges of code points; `within` looks a code point up.
-/

namespace Spreadsheet.Text

/-- Whether a code point lies in one of the ranges, whose ends belong to them. -/
def within (ranges : List (Nat × Nat)) (code : Nat) : Bool :=
  ranges.any fun r => r.1 ≤ code && code ≤ r.2

end Spreadsheet.Text
