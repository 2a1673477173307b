import Spreadsheet.Formula.Literal
import Spreadsheet.Text.Word

/-!
# Code and string literals

A formula is made of code and of string literals. Nothing inside a literal is a reference.

* `segments` cuts a text into its code segments and its literals.
* `flatten_segments` says that nothing is lost.
-/

namespace Spreadsheet.Formula

/-- A part of a formula. -/
inductive Segment
  /-- Text outside string literals. -/
  | code (text : List Char)
  /-- A string literal with its quotation marks. -/
  | literal (text : List Char)
  deriving DecidableEq, Repr

/-- The text of a segment. -/
def Segment.text : Segment → List Char
  | code text => text
  | literal text => text

/-- The code of a segment, if it is code. -/
def Segment.code? : Segment → Option (List Char)
  | code text => some text
  | literal _ => none

/-- Whether a character is no quotation mark. -/
def isCodeChar (c : Char) : Bool :=
  c != '"'

/-- The code segments and the string literals of a text, in order. -/
def segments : List Char → List Segment
  | [] => []
  | c :: rest =>
    if c == '"' then .literal (c :: (literalSpan rest).1) :: segments (literalSpan rest).2
    else .code (c :: rest.takeWhile isCodeChar) :: segments (rest.dropWhile isCodeChar)
termination_by text => text.length
decreasing_by
  · have := length_literalSpan_le rest
    simp only [List.length_cons]
    omega
  · have := Text.length_dropWhile_le isCodeChar rest
    simp only [List.length_cons]
    omega

/-- The segments of a text make up the text. -/
theorem flatten_segments (text : List Char) : (segments text).flatMap Segment.text = text := by
  fun_induction segments text with
  | case1 => rfl
  | case2 c rest _ ih => simp [ih, Segment.text, literalSpan_append]
  | case3 c rest _ ih => simp [ih, Segment.text]

end Spreadsheet.Formula
