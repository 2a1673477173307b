import Spreadsheet.Decimal.Numeral

/-!
# The characters of numerals

* `Decimal.Numeral.isNumeralChar_of_mem`: a numeral is made of digits, points, the marks of
  exponents and their signs.
-/

namespace Spreadsheet.Decimal

variable {text : List Char} {c : Char}

/-- Digits, the decimal point, the marks of an exponent and its signs. -/
def IsNumeralChar (c : Char) : Prop :=
  c.isDigit = true ∨ c ∈ ['.', 'e', 'E', '+', '-']

theorem isDigit_of_natural? {k : Nat} (h : natural? text = some k) (hc : c ∈ text) :
    c.isDigit = true := by
  unfold natural? at h
  split at h
  · rename_i hdigits
    rw [Bool.and_eq_true, List.all_eq_true] at hdigits
    exact hdigits.2 c hc
  · cases h

theorem isNumeralChar_of_integer? {k : Int} (h : integer? text = some k) (hc : c ∈ text) :
    IsNumeralChar c := by
  unfold integer? at h
  split at h <;> obtain ⟨m, hm, -⟩ := Option.map_eq_some_iff.1 h
  · obtain ⟨m, hm, -⟩ := Option.bind_eq_some_iff.1 hm
    rcases List.mem_cons.1 hc with rfl | hc
    · exact .inr (by decide)
    · exact .inl (isDigit_of_natural? hm hc)
  · rcases List.mem_cons.1 hc with rfl | hc
    · exact .inr (by decide)
    · exact .inl (isDigit_of_natural? hm hc)
  · exact .inl (isDigit_of_natural? hm hc)

theorem isNumeralChar_of_exponent? {k : Int} (h : exponent? text = some k) (hc : c ∈ text) :
    IsNumeralChar c := by
  cases text with
  | nil => cases hc
  | cons mark text =>
    rw [exponent?] at h
    split at h
    · rename_i hmark
      rw [Bool.or_eq_true, beq_iff_eq, beq_iff_eq] at hmark
      rcases List.mem_cons.1 hc with rfl | hc
      · exact .inr (by rcases hmark with rfl | rfl <;> decide)
      · exact isNumeralChar_of_integer? h hc
    · cases h

namespace Numeral

/-- The characters of a fraction are a point, digits, and what follows the fraction. -/
theorem mem_fraction (hc : c ∈ text) : IsNumeralChar c ∨ c ∈ (fraction text).2 := by
  unfold fraction
  split
  · rename_i rest
    rcases List.mem_cons.1 hc with rfl | hc
    · exact .inl (.inr (by decide))
    · rw [← List.takeWhile_append_dropWhile (p := Char.isDigit) (l := rest), List.mem_append] at hc
      exact hc.imp_left fun hc => .inl (List.all_eq_true.1 List.all_takeWhile c hc)
  · exact .inr hc

theorem isNumeralChar_of_mem {n : Numeral} (h : ofChars? text = some n) (hc : c ∈ text) :
    IsNumeralChar c := by
  simp only [ofChars?] at h
  split at h
  · cases h
  · obtain ⟨k, hk, -⟩ := Option.map_eq_some_iff.1 h
    rw [← List.takeWhile_append_dropWhile (p := Char.isDigit) (l := text), List.mem_append] at hc
    rcases hc with hc | hc
    · exact .inl (List.all_eq_true.1 List.all_takeWhile c hc)
    · exact (mem_fraction hc).elim id (isNumeralChar_of_exponent? hk)

end Numeral

end Spreadsheet.Decimal
