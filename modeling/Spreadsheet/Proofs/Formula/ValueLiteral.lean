import Spreadsheet.Proofs.Decimal.Display
import Spreadsheet.Proofs.Expression.Joining
import Spreadsheet.Proofs.Formula.Coverage

/-!
# How expressions write values

A text is written as a string literal and a number by its digits. Next to other text only numbers
can be mistaken:

* `of_continues_valueLiteral`: in front of a value, where a word can start, only a number without a
  sign goes on with a number.
* `of_valueLiteral_continues`: behind a value, where a word can end, only a point goes on with it.
* `head?_of_displayChars` and `getLast?_of_displayChars`: the digits of a number are read as numbers
  at both ends.
-/

namespace Spreadsheet.Formula

open Text Expression

variable {u rest : List Char} {x : Float} {value : Value} {A : List Token} {c p d : Char}

/-- Texts and numbers. -/
def IsOperand (value : Value) : Prop :=
  (∃ s, value = .text s) ∨ ∃ x, value = .number x

theorem valueLiteral_text (s : String) : valueLiteral (.text s) = encodeLiteral s.toList := rfl

theorem afterAll_flatMap_encodeChar (text : List Char) :
    Position.literal.afterAll (text.flatMap encodeChar) = .literal := by
  induction text with
  | nil => rfl
  | cons c text ih =>
    rw [List.flatMap_cons, Position.afterAll_append, encodeChar]
    split
    · exact ih
    · simp_all [Position.after]

theorem afterAll_encodeLiteral (text : List Char) :
    Position.code.afterAll (encodeLiteral text) = .code := by
  rw [encodeLiteral, List.cons_append, Position.afterAll_cons, Position.afterAll_append]
  change (Position.literal.afterAll _).afterAll _ = _
  rw [afterAll_flatMap_encodeChar]
  rfl

theorem ne_mark_of_mem_displayChars (hc : c ∈ Decimal.displayChars x) : c ≠ '"' := by
  rw [Decimal.displayChars_eq] at hc
  rintro rfl
  rcases List.mem_append.1 hc with hc | hc
  · split at hc <;> simp at hc
  · rcases Decimal.displayMagnitude_cases (Decimal.Binary.ofFloat x).magnitude with h | h | h
    · rcases h.all _ hc with h | h <;> exact absurd h (by decide)
    · rw [h] at hc
      exact absurd hc (by decide)
    · rw [h] at hc
      exact absurd hc (by decide)

theorem afterAll_displayChars (x : Float) :
    Position.code.afterAll (Decimal.displayChars x) = .code :=
  (Position.afterAll_eq_code_iff fun _ => ne_mark_of_mem_displayChars).2 rfl

theorem afterAll_valueLiteral (h : IsOperand value) :
    Position.code.afterAll (valueLiteral value) = .code := by
  obtain ⟨s, rfl⟩ | ⟨x, rfl⟩ := h
  · exact afterAll_encodeLiteral _
  · exact afterAll_displayChars x

theorem displayChars_ne_nil (x : Float) : Decimal.displayChars x ≠ [] := by
  rw [Decimal.displayChars_eq]
  exact List.append_ne_nil_of_right_ne_nil _ (Decimal.displayMagnitude_ne_nil _)

/-- No mark of a number's exponent is shown at its end. -/
theorem ne_exponentMark_of_getLast?_displayChars (hc : c ∈ (Decimal.displayChars x).getLast?) :
    c ≠ 'e' ∧ c ≠ 'E' := by
  have hlast : c ∈ (Decimal.displayMagnitude (Decimal.Binary.ofFloat x).magnitude).getLast? := by
    rwa [Decimal.displayChars_eq, List.getLast?_append_of_ne_nil _
      (Decimal.displayMagnitude_ne_nil _)] at hc
  rcases Decimal.displayMagnitude_cases (Decimal.Binary.ofFloat x).magnitude with h | h | h
  · rcases h.all c (List.mem_of_getLast? hlast) with hdigit | rfl
    · constructor <;> rintro rfl <;> exact absurd hdigit (by decide)
    · decide
  · rw [h] at hlast
    cases hlast
    decide
  · rw [h] at hlast
    cases hlast
    decide

/-- What can go on behind a character that is no exponent mark. -/
theorem of_continuesNumber (hp : p ≠ 'e' ∧ p ≠ 'E') (h : Token.continuesNumber p d = true) :
    d.isDigit = true ∨ d = '.' ∨ d = 'e' ∨ d = 'E' := by
  simpa [Token.continuesNumber, hp, or_assoc] using h

/-- The characters outside words that go on with a number. -/
theorem continuesNumber_iff_of_not_isWordChar (hd : isWordChar d = false) :
    Token.continuesNumber p d = true ↔
      d = '.' ∨ (d = '+' ∨ d = '-') ∧ (p = 'e' ∨ p = 'E') := by
  have hdigit : ¬d.isDigit = true := fun h => by
    rw [isWordChar_of_isAlphanum (isAlphanum_iff.2 (.inr h))] at hd
    cases hd
  have hmark : d ≠ 'e' ∧ d ≠ 'E' := by
    constructor <;> rintro rfl <;> exact absurd hd (by decide)
  simp [Token.continuesNumber, hdigit, hmark]

theorem ne_exponentMark_of_isWordChar (hp : isWordChar p = false) : p ≠ 'e' ∧ p ≠ 'E' := by
  constructor <;> rintro rfl <;> exact absurd hp (by decide)

/-- Behind a text that ends with no character of a word, only a number without a sign can go on
with a number. -/
theorem of_continues_valueLiteral (hvalue : IsOperand value)
    (hu : ∀ c ∈ u.getLast?, isWordChar c = false) (h : Continues u (valueLiteral value ++ rest)) :
    ∃ x, value = .number x ∧ Decimal.showsSign (.ofFloat x) = false := by
  obtain ⟨hend, d, hd, hcontinues⟩ := h
  have hlast : isWordChar (u.getLastD ' ') = false := by
    rw [List.getLastD_eq_getLast?]
    cases hc : u.getLast? with
    | none => decide
    | some c => exact hu c hc
  have hd' := of_continuesNumber (ne_exponentMark_of_isWordChar hlast) hcontinues
  obtain ⟨s, rfl⟩ | ⟨x, rfl⟩ := hvalue
  · cases hd
    exact absurd hd' (by decide)
  · refine ⟨x, rfl, ?_⟩
    by_contra hsign
    rw [valueLiteral, Decimal.displayChars_eq, if_pos (by simpa using hsign)] at hd
    cases hd
    exact absurd hd' (by decide)

/-- Only a point goes on with a value before it, which is a number. -/
theorem of_valueLiteral_continues (hvalue : IsOperand value)
    (hrest : ∀ d ∈ rest.head?, isWordChar d = false)
    (h : Continues (u ++ valueLiteral value) rest) :
    ∃ x, value = .number x ∧ rest.head? = some '.' := by
  obtain ⟨hend, d, hd, hcontinues⟩ := h
  obtain ⟨s, rfl⟩ | ⟨x, rfl⟩ := hvalue
  · rw [valueLiteral_text, encodeLiteral, ← List.append_assoc, endsNumber_concat] at hend
    exact absurd hend (by simp [Token.continuesNumber])
  · refine ⟨x, rfl, ?_⟩
    rw [valueLiteral, getLastD_append (displayChars_ne_nil x)] at hcontinues
    have hlast : (Decimal.displayChars x).getLastD ' ' ∈ (Decimal.displayChars x).getLast? := by
      rw [List.getLastD_eq_getLast?, List.getLast?_eq_some_getLast (displayChars_ne_nil x)]
      rfl
    have hpoint := (continuesNumber_iff_of_not_isWordChar (hrest d hd)).1 hcontinues
    rw [← hpoint.resolve_right fun h =>
      not_or.2 (ne_exponentMark_of_getLast?_displayChars hlast) h.2]
    exact hd

theorem tokens?_displayMagnitude_cases (m : Decimal.Magnitude) :
    Decimal.IsPlain (Decimal.displayMagnitude m) ∨ tokens? (Decimal.displayMagnitude m) = none := by
  rcases Decimal.displayMagnitude_cases m with h | h | h
  · exact .inl h
  · rw [h, tokens?_other (by decide) (by decide) (by decide) (by decide)]
    exact .inr rfl
  · rw [h, tokens?_other (by decide) (by decide) (by decide) (by decide)]
    exact .inr rfl

/-- What is shown without a sign is a number if it can be read. -/
theorem exists_of_displayMagnitude {m : Decimal.Magnitude}
    (h : tokens? (Decimal.displayMagnitude m) = some A) :
    (∃ y, A.head? = some (.number y)) ∧ ∃ y, A.getLast? = some (.number y) := by
  rcases tokens?_displayMagnitude_cases m with hplain | hnone
  · obtain ⟨c, hc, hhead⟩ := hplain.head
    obtain ⟨d, hd, hlast⟩ := hplain.last
    have hcode : Position.code.afterAll (Decimal.displayMagnitude m) = .code := by
      refine (Position.afterAll_eq_code_iff fun e he => ?_).2 rfl
      rcases hplain.all e he with h | rfl
      · rintro rfl
        exact absurd h (by decide)
      · decide
    obtain ⟨rest, hrest⟩ := List.head?_eq_some_iff.1 hc
    refine ⟨?_, getLast?_of_endsNumber hcode ?_ h⟩
    · rw [hrest] at h
      exact head?_of_startsNumber (by simp [hhead]) h
    · obtain ⟨front, hfront⟩ := List.getLast?_eq_some_iff.1 hd
      rw [hfront, endsNumber_concat]
      simp [Token.continuesNumber, hlast]
  · rw [hnone] at h
    cases h

theorem getLast?_of_displayChars (h : tokens? (Decimal.displayChars x) = some A) :
    ∃ y, A.getLast? = some (.number y) := by
  rw [Decimal.displayChars_eq] at h
  split at h
  · rw [List.singleton_append, tokens?_symbol (t := .minus) rfl (by decide)] at h
    obtain ⟨B, C, -, hC, rfl⟩ := exists_of_joined h
    obtain ⟨y, hy⟩ := (exists_of_displayMagnitude hC).2
    exact ⟨y, by rw [List.getLast?_append, hy]; rfl⟩
  · exact (exists_of_displayMagnitude h).2

theorem head?_of_displayChars (hsign : Decimal.showsSign (.ofFloat x) = false)
    (h : tokens? (Decimal.displayChars x) = some A) : ∃ y, A.head? = some (.number y) := by
  rw [Decimal.displayChars_eq, if_neg (by simp [hsign]), List.nil_append] at h
  exact (exists_of_displayMagnitude h).1

end Spreadsheet.Formula
