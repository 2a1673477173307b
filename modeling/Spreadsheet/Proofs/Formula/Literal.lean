import Spreadsheet.Expression.Token
import Spreadsheet.Formula.Literal

/-!
# What string literals stand for

A formula is scanned for string literals twice: for their ends before its references are looked for,
and for their texts when it is read as tokens. What both scanners have to find is said here once.

* `StandsFor` relates what is between the marks of a literal to the text of the literal.
* `StandsFor.literalSpan_append` and `Expression.Lexeme.readLiteral?_eq_some_iff`: the one scanner
  finds the end of the literal, the other one its text too.
* `standsFor_flatMap_encodeChar`: a written literal stands for its text.
-/

namespace Spreadsheet.Formula

variable {inside content : List Char}

/-- The characters between the marks of a literal that stands for a text. A backslash takes the
character behind it along, and neither marks nor backslashes stand for themselves. -/
inductive StandsFor : List Char → List Char → Prop
  | nil : StandsFor [] []
  | plain {c : Char} {inside content : List Char} (hmark : c ≠ '"') (hescape : c ≠ '\\')
    (h : StandsFor inside content) : StandsFor (c :: inside) (c :: content)
  | escaped {c : Char} {inside content : List Char} (h : StandsFor inside content) :
    StandsFor ('\\' :: c :: inside) (c :: content)

/-- A written literal stands for its text. -/
theorem standsFor_flatMap_encodeChar (text : List Char) :
    StandsFor (text.flatMap encodeChar) text := by
  induction text with
  | nil => exact .nil
  | cons c text ih =>
    rw [List.flatMap_cons, encodeChar]
    split
    · exact .escaped ih
    · rename_i hc
      obtain ⟨hmark, hescape⟩ : c ≠ '"' ∧ c ≠ '\\' := by simpa using hc
      exact .plain hmark hescape ih

/-- The scanner for segments finds the closing mark. -/
theorem StandsFor.literalSpan_append (h : StandsFor inside content) (rest : List Char) :
    literalSpan (inside ++ '"' :: rest) = (inside ++ ['"'], rest) := by
  induction h with
  | nil => exact literalSpan_mark rest
  | plain hmark hescape h ih => rw [List.cons_append, literalSpan_plain hmark hescape, ih]; rfl
  | escaped h ih => rw [List.cons_append, List.cons_append, literalSpan_escaped, ih]; rfl

end Spreadsheet.Formula

namespace Spreadsheet.Expression.Lexeme

open Formula (StandsFor)

variable {text rest inside content : List Char} {mark : Char} {l : Lexeme}

/-- The scanner for tokens finds a closing mark, and the text in front of it. -/
theorem exists_of_readLiteral? (h : readLiteral? text = some (content, rest)) :
    ∃ inside, text = inside ++ '"' :: rest ∧ StandsFor inside content := by
  fun_induction readLiteral? text generalizing content with
  | case1 => cases h
  | case2 c rest hc =>
    obtain rfl : c = '"' := by simpa using hc
    cases h
    exact ⟨[], rfl, .nil⟩
  | case3 => cases h
  | case4 c hc hescape d after ih =>
    obtain rfl : c = '\\' := by simpa using hescape
    obtain ⟨⟨content, behind⟩, hread, heq⟩ := Option.map_eq_some_iff.1 h
    cases heq
    obtain ⟨inside, rfl, hinside⟩ := ih hread
    exact ⟨'\\' :: d :: inside, rfl, .escaped hinside⟩
  | case5 c rest hc hescape ih =>
    obtain ⟨⟨content, behind⟩, hread, heq⟩ := Option.map_eq_some_iff.1 h
    cases heq
    obtain ⟨inside, rfl, hinside⟩ := ih hread
    exact ⟨c :: inside, rfl, .plain (by simpa using hc) (by simpa using hescape) hinside⟩

theorem readLiteral?_append (h : StandsFor inside content) (rest : List Char) :
    readLiteral? (inside ++ '"' :: rest) = some (content, rest) := by
  induction h with
  | nil => simp [readLiteral?.eq_def]
  | plain hmark hescape h ih =>
    rw [List.cons_append, readLiteral?.eq_def]
    simp [hmark, hescape, ih]
  | escaped h ih =>
    rw [List.cons_append, List.cons_append, readLiteral?.eq_def]
    simp [ih]

/-- What the scanner for tokens reads is a closed literal. -/
theorem readLiteral?_eq_some_iff :
    readLiteral? text = some (content, rest) ↔
      ∃ inside, text = inside ++ '"' :: rest ∧ StandsFor inside content :=
  ⟨exists_of_readLiteral?, by rintro ⟨inside, rfl, h⟩; exact readLiteral?_append h rest⟩

/-- The lexeme of a literal has the characters up to the closing mark. -/
theorem ofLiteral_eq_ok_iff :
    ofLiteral mark text = .ok l ↔ ∃ inside content rest, text = inside ++ '"' :: rest ∧
      StandsFor inside content ∧
        l = ⟨.text (String.ofList content), mark :: (inside ++ ['"'])⟩ := by
  have htake (inside rest : List Char) :
      (inside ++ '"' :: rest).take ((inside ++ '"' :: rest).length - rest.length) =
        inside ++ ['"'] := by
    rw [List.append_cons, List.length_append, Nat.add_sub_cancel]
    exact List.take_left
  rw [ofLiteral]
  constructor
  · intro h
    split at h
    · rename_i content rest hread
      obtain ⟨inside, rfl, hinside⟩ := readLiteral?_eq_some_iff.1 hread
      cases h
      exact ⟨inside, content, rest, rfl, hinside, by rw [htake]⟩
    · cases h
  · rintro ⟨inside, content, rest, rfl, hinside, rfl⟩
    rw [readLiteral?_append hinside]
    simp only [htake]

end Spreadsheet.Expression.Lexeme
