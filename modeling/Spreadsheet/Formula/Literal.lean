/-!
# String literals

A string literal runs from a quotation mark to the next one; a backslash in it takes the character
after it along, and a literal that is never closed runs to the end of the text.

* `literalSpan` finds the end of a literal.
* `encodeLiteral` writes a literal that stands for a text.
-/

namespace Spreadsheet.Formula

/-- What belongs to a literal after its opening mark, and what follows the literal. -/
def literalSpan : List Char → List Char × List Char
  | [] => ([], [])
  | c :: rest =>
    if c == '"' then ([c], rest)
    else if c == '\\' then
      match rest with
      | [] => ([c], [])
      | d :: after => (literalSpan after).map (c :: d :: ·) id
    else (literalSpan rest).map (c :: ·) id

@[simp] theorem literalSpan_mark (rest : List Char) :
    literalSpan ('"' :: rest) = (['"'], rest) := by
  rw [literalSpan.eq_def]
  simp

@[simp] theorem literalSpan_escaped (d : Char) (after : List Char) :
    literalSpan ('\\' :: d :: after) =
      (literalSpan after).map ('\\' :: d :: ·) id := by
  rw [literalSpan.eq_def]
  simp

theorem literalSpan_plain {c : Char} (hq : c ≠ '"') (hb : c ≠ '\\') (rest : List Char) :
    literalSpan (c :: rest) = (literalSpan rest).map (c :: ·) id := by
  rw [literalSpan.eq_def]
  simp [hq, hb]

/-- A literal and what follows it make up the text. -/
theorem literalSpan_append (text : List Char) :
    (literalSpan text).1 ++ (literalSpan text).2 = text := by
  fun_induction literalSpan text <;> simp_all

theorem length_literalSpan_le (text : List Char) :
    (literalSpan text).2.length ≤ text.length := by
  have h := congrArg List.length (literalSpan_append text)
  rw [List.length_append] at h
  omega

/-- A character inside a literal: quotation marks and backslashes follow a backslash. -/
def encodeChar (c : Char) : List Char :=
  if c == '"' || c == '\\' then ['\\', c] else [c]

/-- The literal that stands for a text. -/
def encodeLiteral (text : List Char) : List Char :=
  '"' :: text.flatMap encodeChar ++ ['"']

end Spreadsheet.Formula
