import Spreadsheet.Address.Set
import Spreadsheet.Formula.Segment
import Spreadsheet.Range

/-!
# The cells that a formula reads

A formula mentions cells by labels, each standing as a word of its own, and ranges by two such
words with a colon between them. What stands in a string literal is no mention.

* `mentions` finds the mentions in code that is cut into words.
* `dependencies` lists the cells that a formula reads, without repetitions. In every code segment
  the ranges come before the single cells.
* `references` lists the single words of a text that name a cell, whether or not they stand next
  to a colon.
-/

namespace Spreadsheet.Formula

/-- Words of a formula that have the shape of labels. -/
inductive Mention
  | cell (label : List Char)
  | range (first last : List Char)
  deriving DecidableEq, Repr

namespace Mention

/-- Whether a range is mentioned. -/
def isRange : Mention → Bool
  | cell _ => false
  | range _ _ => true

/-- The cells that a mention stands for. Labels that name no cell stand for none, and a range that
is too large stands for its two corners. -/
def cells : Mention → List Address
  | cell label => (Address.ofLabel? label).toList
  | range first last =>
    match Address.ofLabel? first, Address.ofLabel? last with
    | some a, some b =>
      let r := Range.between a b
      r.expansion?.getD [r.low, r.high]
    | _, _ => []

end Mention

/-- The second label of a range whose first one has just been read, and the pieces after it. -/
def rangeEnd? : List (List Char) → Option (List Char × List (List Char))
  | colon :: label :: after =>
    if colon == [':'] && Address.isLabelShaped label then some (label, after) else none
  | _ => none

theorem length_of_rangeEnd? {pieces after : List (List Char)} {label : List Char}
    (h : rangeEnd? pieces = some (label, after)) : after.length < pieces.length := by
  unfold rangeEnd? at h
  split at h
  · split at h <;> simp at h
    simp only [List.length_cons, ← h.2]
    omega
  · simp at h

/-- The mentions among the pieces of a text, from left to right. -/
def mentions : List (List Char) → List Mention
  | [] => []
  | piece :: rest =>
    if Address.isLabelShaped piece then
      match _h : rangeEnd? rest with
      | some (label, after) => .range piece label :: mentions after
      | none => .cell piece :: mentions rest
    else mentions rest
termination_by pieces => pieces.length
decreasing_by
  · have := length_of_rangeEnd? _h
    simp only [List.length_cons]
    omega
  · simp
  · simp

/-- The cells that a code segment mentions: those of its ranges, then the single ones. -/
def segmentCells (code : List Char) : List Address :=
  let found := mentions (Text.pieces code)
  (found.filter Mention.isRange ++ found.filter (!·.isRange)).flatMap Mention.cells

/-- The code of a text, without its string literals. -/
def codeSegments (text : List Char) : List (List Char) :=
  (segments text).filterMap Segment.code?

/-- The cells that a formula reads, each once. -/
def dependencies (formula : String) : List Address :=
  Address.distinct ((codeSegments formula.toList).flatMap segmentCells)

/-- The words of a text outside string literals that name a cell, in order. -/
def references (text : List Char) : List Address :=
  (codeSegments text).flatMap fun code => (Text.pieces code).filterMap Address.ofLabel?

end Spreadsheet.Formula
