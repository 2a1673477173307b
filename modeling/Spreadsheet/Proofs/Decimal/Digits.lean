import Mathlib.Data.List.Induction
import Mathlib.Data.Nat.Digits.Defs
import Mathlib.Tactic.Ring
import Spreadsheet.Decimal.Digits

/-!
# Writing and reading decimal digits

* `Decimal.digitsValue_toDigits`: digits read back the number that they were written for.
* `Decimal.toDigits_digitsValue`: a number that was read is written without its leading zeros.
* `Decimal.digitsValue_eq_ofDigits`: the number that digits write, as a sum over powers of ten.
-/

namespace Spreadsheet.Decimal

variable {c : Char} {ds : List Char} {n : Nat}

theorem isDigit_iff : c.isDigit = true ↔ '0' ≤ c ∧ c ≤ '9' := by
  rw [Char.isDigit, Bool.and_eq_true, decide_eq_true_iff, decide_eq_true_iff]
  rfl

theorem toNat_of_isDigit (hc : c.isDigit = true) : 48 ≤ c.toNat ∧ c.toNat ≤ 57 :=
  isDigit_iff.1 hc

/-- A digit is written as it is read. -/
theorem digitChar_toNat_sub (hc : c.isDigit = true) : (c.toNat - 48).digitChar = c := by
  obtain ⟨hlow, hhigh⟩ := toNat_of_isDigit hc
  have hall : ∀ n < 10, n.digitChar = Char.ofNat (48 + n) := by decide
  rw [hall _ (by omega), show 48 + (c.toNat - 48) = c.toNat by omega, Char.ofNat_toNat]

theorem toDigits_toNat_sub (hc : c.isDigit = true) : Nat.toDigits 10 (c.toNat - 48) = [c] := by
  have := toNat_of_isDigit hc
  rw [Nat.toDigits_of_lt_base (by omega), digitChar_toNat_sub hc]

theorem digitsValue_concat (ds : List Char) (c : Char) :
    digitsValue (ds ++ [c]) = digitsValue ds * 10 + (c.toNat - 48) := by
  simp [digitsValue]

/-- The number that digits write is a sum over powers of ten, the last digit counting units. -/
theorem digitsValue_eq_ofDigits (ds : List Char) :
    digitsValue ds = Nat.ofDigits 10 (ds.reverse.map fun c => c.toNat - 48) := by
  induction ds using List.reverseRecOn with
  | nil => rfl
  | append_singleton ds c ih =>
    rw [digitsValue_concat, ih, List.reverse_concat, List.map_cons, Nat.ofDigits_cons]
    ring

theorem digitsValue_eq_ofDigitChars (ds : List Char) :
    digitsValue ds = Nat.ofDigitChars 10 ds 0 := by
  rw [digitsValue, Nat.ofDigitChars_eq_foldl]
  simp only [Nat.mul_comm]
  rfl

/-- Digits read back the number that they were written for. -/
theorem digitsValue_toDigits (n : Nat) : digitsValue (Nat.toDigits 10 n) = n := by
  rw [digitsValue_eq_ofDigitChars, Nat.ofDigitChars_ten_toDigits]

/-- Digits that are read after a number are written after it. -/
theorem toDigits_ofDigitChars (hds : ds.all Char.isDigit = true) (hn : 0 < n) :
    Nat.toDigits 10 (Nat.ofDigitChars 10 ds n) = Nat.toDigits 10 n ++ ds := by
  induction ds generalizing n with
  | nil => simp
  | cons c ds ih =>
    rw [List.all_cons, Bool.and_eq_true] at hds
    obtain ⟨hlow, hhigh⟩ := toNat_of_isDigit hds.1
    have hstep : Nat.toDigits 10 (10 * n + (c.toNat - 48)) = Nat.toDigits 10 n ++ [c] := by
      rw [← Nat.toDigits_append_toDigits (by decide) hn (by omega),
        toDigits_toNat_sub hds.1]
    rw [Nat.ofDigitChars_cons, show '0'.toNat = 48 from rfl, ih hds.2 (by omega), hstep,
      List.append_assoc, List.singleton_append]

/-- A number that was read is written without the zeros in front of it. -/
theorem toDigits_digitsValue (hds : ds.all Char.isDigit = true) (hpos : 0 < digitsValue ds) :
    Nat.toDigits 10 (digitsValue ds) = ds.dropWhile (· == '0') := by
  rw [digitsValue_eq_ofDigitChars] at hpos ⊢
  induction ds with
  | nil => simp at hpos
  | cons c ds ih =>
    rw [List.all_cons, Bool.and_eq_true] at hds
    rw [Nat.ofDigitChars_cons, Nat.mul_zero, Nat.zero_add, show '0'.toNat = 48 from rfl] at hpos ⊢
    by_cases hc : c = '0'
    · subst hc
      simpa using ih hds.2 hpos
    · obtain ⟨hlow, hhigh⟩ := toNat_of_isDigit hds.1
      have hne : c.toNat ≠ 48 := fun h => hc (Char.toNat_inj.1 h)
      rw [toDigits_ofDigitChars hds.2 (by omega), toDigits_toNat_sub hds.1,
        List.dropWhile_cons_of_neg (by simpa using hc)]
      rfl

end Spreadsheet.Decimal
