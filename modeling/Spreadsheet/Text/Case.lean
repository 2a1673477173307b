import Spreadsheet.Text.Ranges
import Spreadsheet.Text.CaseTable

/-!
# Letter case

* `upper` and `lower` change the case of a text in every script. The other case of a character may
  be several characters long: the upper case of a sharp s is `SS`.
* A capital sigma becomes a final sigma at the end of a word and a plain one elsewhere: `endsWord`.
-/

namespace Spreadsheet.Text

/-- The code point that a list of shifts sends another to. -/
def shifted (shifts : List Shift) (code : Nat) : Nat :=
  match shifts.find? fun s => s.first ≤ code && code ≤ s.last && (code - s.first) % s.step == 0 with
  | some s => (code + s.distance).toNat
  | none => code

/-- The upper case of a character. -/
def upperChar (c : Char) : List Char :=
  if c.toNat < 128 then [c.toUpper]
  else match upperExpansions.lookup c.toNat with
    | some codes => codes.map Char.ofNat
    | none => [Char.ofNat (shifted upperShifts c.toNat)]

/-- The lower case of a character by itself. Only the dotted capital i takes two characters: an i
and a combining dot. -/
def lowerChar (c : Char) : List Char :=
  if c.toNat < 128 then [c.toLower]
  else if c.toNat == 0x130 then ['i', Char.ofNat 0x307]
  else [Char.ofNat (shifted lowerShifts c.toNat)]

/-- A letter that has a case. -/
def isCased (c : Char) : Bool :=
  if c.toNat < 128 then c.isAlpha else within casedRanges c.toNat

/-- A character that is passed over when looking for a letter with a case. The ones in ASCII are
the apostrophe, the full stop, the colon, the circumflex and the grave accent. -/
def isCaseIgnorable (c : Char) : Bool :=
  if c.toNat < 128 then [0x27, 0x2E, 0x3A, 0x5E, 0x60].contains c.toNat
  else within caseIgnorableRanges c.toNat

/-- Whether the first character that is not passed over has a case. -/
def startsCased (text : List Char) : Bool :=
  (text.dropWhile isCaseIgnorable).head?.any isCased

/-- Whether a sigma between two texts ends a word. The text before it is given from the sigma
backwards. -/
def endsWord (before after : List Char) : Bool :=
  startsCased before && !startsCased after

/-- The lower case of a text that follows another, given backwards. -/
def lowerAfter (before : List Char) : List Char → List Char
  | [] => []
  | c :: rest =>
    let here := if c == 'Σ' then [if endsWord before rest then 'ς' else 'σ'] else lowerChar c
    here ++ lowerAfter (c :: before) rest

/-- The lower case of a text. -/
def lower (text : List Char) : List Char :=
  lowerAfter [] text

/-- The upper case of a text. -/
def upper (text : List Char) : List Char :=
  text.flatMap upperChar

end Spreadsheet.Text
