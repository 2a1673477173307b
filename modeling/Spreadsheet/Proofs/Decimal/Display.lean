import Spreadsheet.Decimal.Display
import Spreadsheet.Proofs.Decimal.Digits

/-!
# What shown numbers look like

* `Decimal.isPlain_positional`: a finite number is shown as digits with at most a point between
  them, so that it starts and ends with a digit.
* `Decimal.displayMagnitude_cases`: the other numbers are shown as words.
-/

namespace Spreadsheet.Decimal

variable {u v text : List Char}

/-- Digits and points, with a digit at both ends. -/
structure IsPlain (text : List Char) : Prop where
  head : ∃ c ∈ text.head?, c.isDigit = true
  last : ∃ c ∈ text.getLast?, c.isDigit = true
  all : ∀ c ∈ text, c.isDigit = true ∨ c = '.'

theorem isPlain_of_digits (hne : text ≠ []) (hall : ∀ c ∈ text, c.isDigit = true) :
    IsPlain text where
  head := ⟨text.head hne, List.head?_eq_some_head hne, hall _ (List.head_mem hne)⟩
  last := ⟨text.getLast hne, List.getLast?_eq_some_getLast hne, hall _ (List.getLast_mem hne)⟩
  all c hc := .inl (hall c hc)

theorem IsPlain.point (hu : IsPlain u) (hv : IsPlain v) : IsPlain (u ++ '.' :: v) where
  head := by
    obtain ⟨c, hc, hdigit⟩ := hu.head
    exact ⟨c, by rw [List.head?_append, Option.mem_def.1 hc]; rfl, hdigit⟩
  last := by
    obtain ⟨c, hc, hdigit⟩ := hv.last
    exact ⟨c, by rw [List.append_cons, List.getLast?_append, Option.mem_def.1 hc]; rfl, hdigit⟩
  all c hc := by
    rcases List.mem_append.1 hc with hc | hc
    · exact hu.all c hc
    · rcases List.mem_cons.1 hc with hc | hc
      · exact .inr hc
      · exact hv.all c hc

theorem isDigit_of_mem_zeros {n : Nat} {c : Char} (h : c ∈ zeros n) : c.isDigit = true := by
  rw [(List.mem_replicate.1 h).2]
  rfl

/-- A positive number is shown as digits with at most a point between them. -/
theorem isPlain_positional (d : Scaled) : IsPlain (positional d) := by
  have hdigits : ∀ c ∈ Nat.toDigits 10 d.digits, c.isDigit = true := fun c hc =>
    Nat.isDigit_of_mem_toDigits (by decide) (by decide) hc
  rw [positional]
  split
  · refine isPlain_of_digits (by simp [Nat.toDigits_ne_nil]) fun c hc => ?_
    exact (List.mem_append.1 hc).elim (hdigits c) isDigit_of_mem_zeros
  · -- enough zeros are put in front for a digit before the point
    rename_i k _
    simp only
    have hpadded : ∀ c ∈ zeros (k + 1 + 1 - (Nat.toDigits 10 d.digits).length) ++
        Nat.toDigits 10 d.digits, c.isDigit = true := fun c hc =>
      (List.mem_append.1 hc).elim isDigit_of_mem_zeros (hdigits c)
    have hlength : k + 1 < (zeros (k + 1 + 1 - (Nat.toDigits 10 d.digits).length) ++
        Nat.toDigits 10 d.digits).length := by
      simp only [zeros, List.length_append, List.length_replicate]
      omega
    generalize zeros (k + 1 + 1 - (Nat.toDigits 10 d.digits).length) ++
        Nat.toDigits 10 d.digits = padded at hpadded hlength ⊢
    refine .point (isPlain_of_digits ?_ fun c hc => hpadded c (List.mem_of_mem_take hc))
      (isPlain_of_digits ?_ fun c hc => hpadded c (List.mem_of_mem_drop hc))
    · refine List.ne_nil_of_length_pos ?_
      rw [List.length_take]
      omega
    · refine List.ne_nil_of_length_pos ?_
      rw [List.length_drop]
      omega

/-- Numbers that are not finite are shown as words. -/
theorem displayMagnitude_cases (m : Magnitude) :
    IsPlain (displayMagnitude m) ∨ displayMagnitude m = ['i', 'n', 'f'] ∨
      displayMagnitude m = ['N', 'a', 'N'] := by
  cases m with
  | finite mantissa exponent lowest =>
    refine .inl ?_
    rw [displayMagnitude]
    split
    · exact isPlain_of_digits (by simp) fun c => isDigit_of_mem_zeros (n := 1)
    · exact isPlain_positional _
  | infinite => exact .inr (.inl rfl)
  | notANumber => exact .inr (.inr rfl)

theorem displayChars_eq (x : Float) :
    displayChars x = (if showsSign (.ofFloat x) then ['-'] else []) ++
      displayMagnitude (Binary.ofFloat x).magnitude := by
  rw [displayChars]
  split <;> rfl

theorem displayMagnitude_ne_nil (m : Magnitude) : displayMagnitude m ≠ [] := by
  intro hnil
  rcases displayMagnitude_cases m with h | h | h
  · obtain ⟨c, hc, -⟩ := h.head
    rw [hnil] at hc
    cases hc
  · cases hnil.symm.trans h
  · cases hnil.symm.trans h

end Spreadsheet.Decimal
