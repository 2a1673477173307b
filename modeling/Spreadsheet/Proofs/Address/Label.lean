import Spreadsheet.Proofs.Address.Column
import Spreadsheet.Proofs.Decimal.Digits
import Spreadsheet.Sheet.Error

/-!
# Labels and addresses

Every address but those on the last row or column has a label, and every label reads back. Labels
are the texts of the shape letters-then-digits whose two numbers fit a 64-bit word; different labels
of one cell differ in leading zeros only (`Address.label_codec`).

* `Address.ofLabel?_eq_some_iff` takes a label apart into the letters of its column and the digits
  of its row.
* `Address.IsLabel` says which letters and digits are a label.
-/

namespace Spreadsheet.Address

variable {a : Address} {letters digits text : List Char}

/-! ## Taking a label apart -/

theorem not_isUpper_of_isDigit {c : Char} (hc : c.isDigit = true) : c.isUpper = false := by
  have hdigit := Decimal.toNat_of_isDigit hc
  by_contra hupper
  have := Column.toNat_of_isUpper (Bool.eq_true_of_not_eq_false hupper)
  omega

/-- Letters end where digits begin. -/
theorem span_letters (hletters : letters.all Char.isUpper = true)
    (hdigits : digits.all Char.isDigit = true) :
    (letters ++ digits).takeWhile Char.isUpper = letters ∧
      (letters ++ digits).dropWhile Char.isUpper = digits := by
  rw [List.all_eq_true] at hletters hdigits
  have hfirst : digits.takeWhile Char.isUpper = [] ∧ digits.dropWhile Char.isUpper = digits := by
    cases digits with
    | nil => exact ⟨rfl, rfl⟩
    | cons c digits =>
      have hc := not_isUpper_of_isDigit (hdigits c (by simp))
      simp [hc]
  rw [List.takeWhile_append_of_pos hletters, List.dropWhile_append_of_pos hletters, hfirst.1,
    hfirst.2, List.append_nil]
  exact ⟨rfl, rfl⟩

/-- A label consists of the letters of its column and of digits that write its row number. -/
theorem ofLabel?_eq_some_iff :
    ofLabel? text = some a ↔ ∃ letters digits, text = letters ++ digits ∧ digits ≠ [] ∧
      digits.all Char.isDigit = true ∧ Column.ofLetters? letters = some a.column ∧
        Coord.ofOrdinal? (Decimal.digitsValue digits) = some a.row := by
  constructor
  · intro h
    unfold ofLabel? at h
    split at h
    · rename_i hshape
      simp only [isLabelShaped, Bool.and_eq_true, Bool.not_eq_true'] at hshape
      obtain ⟨column, hcolumn, h⟩ := Option.bind_eq_some_iff.1 h
      obtain ⟨row, hrow, h⟩ := Option.bind_eq_some_iff.1 h
      obtain rfl := Option.some.inj h
      exact ⟨_, _, List.takeWhile_append_dropWhile.symm, List.isEmpty_eq_false_iff.1 hshape.1.2,
        hshape.2, hcolumn, hrow⟩
    · cases h
  · rintro ⟨letters, digits, rfl, hne, hdigits, hcolumn, hrow⟩
    obtain ⟨hletters, -, hordinal⟩ := Column.ofLetters?_eq_some_iff.1 hcolumn
    have hletters' : letters ≠ [] := by
      rintro rfl
      cases hordinal
    obtain ⟨htake, hdrop⟩ := span_letters hletters hdigits
    have hshape : isLabelShaped (letters ++ digits) = true := by
      simp [isLabelShaped, htake, hdrop, hletters', hne, hdigits]
    rw [ofLabel?, if_pos hshape, htake, hdrop, hcolumn, hrow]
    rfl

theorem ofText_eq_ok_iff {text : String} : ofText text = .ok a ↔ ofLabel? text.toList = some a := by
  unfold ofText parse?
  cases ofLabel? text.toList <;> simp

/-- A cell that has a label is not on the last row or column. -/
theorem add_one_lt_count {label : List Char} (h : ofLabel? label = some a) :
    a.row.val + 1 < Coord.count ∧ a.column.val + 1 < Coord.count := by
  obtain ⟨letters, digits, -, -, -, hcolumn, hrow⟩ := ofLabel?_eq_some_iff.1 h
  obtain ⟨hcount, hordinal⟩ := Coord.ofOrdinal?_eq_some_iff.1 hrow
  exact ⟨hordinal ▸ hcount, (Column.ofLetters?_eq_some_iff.1 hcolumn).2.1⟩

/-! ## Which texts are labels -/

/-- The letters and the digits of a label. Each writes a number that fits a 64-bit word, the letters
in base 26 with digits from 1 to 26 and the digits in base ten; row numbers start from one. -/
structure IsLabel (letters digits : List Char) : Prop where
  letters_ne_nil : letters ≠ []
  letters_upper : ∀ c ∈ letters, 'A' ≤ c ∧ c ≤ 'Z'
  digits_ne_nil : digits ≠ []
  digits_decimal : ∀ c ∈ digits, '0' ≤ c ∧ c ≤ '9'
  column_le : Nat.ofDigits 26 (letters.reverse.map fun c => c.toNat - 64) ≤ 2 ^ 64 - 1
  row_pos : 1 ≤ Nat.ofDigits 10 (digits.reverse.map fun c => c.toNat - 48)
  row_le : Nat.ofDigits 10 (digits.reverse.map fun c => c.toNat - 48) ≤ 2 ^ 64 - 1

/-- The number of a row is positive and fits a 64-bit word. -/
theorem exists_ofOrdinal?_iff {n : Nat} :
    (∃ k, Coord.ofOrdinal? n = some k) ↔ 1 ≤ n ∧ n ≤ 2 ^ 64 - 1 := by
  simp only [Coord.ofOrdinal?_eq_some_iff, Coord.count]
  constructor
  · rintro ⟨k, hn, rfl⟩
    omega
  · rintro ⟨hpos, hn⟩
    exact ⟨⟨n - 1, by omega⟩, by omega, by simp only; omega⟩

theorem isLabel_iff :
    IsLabel letters digits ↔ digits ≠ [] ∧ digits.all Char.isDigit = true ∧
      (∃ column, Column.ofLetters? letters = some column) ∧
        ∃ row, Coord.ofOrdinal? (Decimal.digitsValue digits) = some row := by
  have hword : ∀ n, n < Coord.count ↔ n ≤ 2 ^ 64 - 1 := fun n => by
    simp only [Coord.count]
    omega
  simp only [Column.exists_ofLetters?_iff, exists_ofOrdinal?_iff, hword, List.all_eq_true,
    Column.isUpper_iff, Decimal.isDigit_iff, Column.ordinal_eq_ofDigits,
    Decimal.digitsValue_eq_ofDigits]
  constructor
  · rintro ⟨hne, hletters, hne', hdigits, hcolumn, hpos, hrow⟩
    exact ⟨hne', hdigits, ⟨hne, hletters, hcolumn⟩, hpos, hrow⟩
  · rintro ⟨hne', hdigits, ⟨hne, hletters, hcolumn⟩, hpos, hrow⟩
    exact ⟨hne, hletters, hne', hdigits, hcolumn, hpos, hrow⟩

/-- The texts that read as an address are the labels. -/
theorem exists_ofLabel?_iff :
    (∃ a, ofLabel? text = some a) ↔
      ∃ letters digits, text = letters ++ digits ∧ IsLabel letters digits := by
  simp only [ofLabel?_eq_some_iff, isLabel_iff]
  constructor
  · rintro ⟨a, letters, digits, htext, hne, hdigits, hcolumn, hrow⟩
    exact ⟨letters, digits, htext, hne, hdigits, ⟨_, hcolumn⟩, _, hrow⟩
  · rintro ⟨letters, digits, htext, hne, hdigits, ⟨column, hcolumn⟩, row, hrow⟩
    exact ⟨⟨row, column⟩, letters, digits, htext, hne, hdigits, hcolumn, hrow⟩

/-! ## Writing and reading -/

/-- Every row but the last one is written by its number. -/
theorem rowDigits_of_lt {row : Coord} (h : row.val + 1 < Coord.count) :
    rowDigits row = Nat.toDigits 10 (row.val + 1) := by
  rw [rowDigits, Nat.mod_eq_of_lt h]

/-- A label reads back, unless the cell is on the last row or column. -/
theorem ofLabel?_labelChars (hrow : a.row.val + 1 < Coord.count)
    (hcolumn : a.column.val + 1 < Coord.count) : ofLabel? a.labelChars = some a := by
  refine ofLabel?_eq_some_iff.2 ⟨_, _, rfl, Nat.toDigits_ne_nil, ?_,
    Column.ofLetters?_letters hcolumn, ?_⟩
  · exact List.all_eq_true.2 fun c hc => Nat.isDigit_of_mem_toDigits (by decide) (by decide) hc
  · rw [rowDigits_of_lt hrow, Decimal.digitsValue_toDigits, Coord.ofOrdinal?_eq_some_iff]
    exact ⟨hrow, rfl⟩

/-- What a text reads as has that text as its label, the zeros in front of the row number apart. -/
theorem labelChars_of_ofLabel? (hlabel : IsLabel letters digits)
    (h : ofLabel? (letters ++ digits) = some a) :
    a.labelChars = letters ++ digits.dropWhile (· == '0') := by
  obtain ⟨-, hdigits, ⟨column, hcolumn⟩, row, hrow⟩ := isLabel_iff.1 hlabel
  obtain ⟨letters', digits', htext, -, hdigits', hcolumn', hrow'⟩ := ofLabel?_eq_some_iff.1 h
  -- there is one way to take a label apart
  have hspan := span_letters (Column.ofLetters?_eq_some_iff.1 hcolumn).1 hdigits
  have hspan' := span_letters (Column.ofLetters?_eq_some_iff.1 hcolumn').1 hdigits'
  rw [← htext] at hspan'
  obtain rfl : letters' = letters := hspan'.1.symm.trans hspan.1
  obtain rfl : digits' = digits := hspan'.2.symm.trans hspan.2
  obtain ⟨hfits, hnumber⟩ := Coord.ofOrdinal?_eq_some_iff.1 hrow'
  rw [labelChars, Column.letters_of_ofLetters? hcolumn', rowDigits_of_lt (hnumber ▸ hfits),
    ← hnumber, Decimal.toDigits_digitsValue hdigits' (by omega)]

/-- **Labels and addresses correspond.** An address that is not on the last row or column is what
its label reads as. The texts that read as an address are the labels, and the address has such a
text as its label, the zeros in front of the row number apart. Columns come in the order of their
letters, shorter ones first. -/
theorem label_codec :
    (∀ a : Address, a.row.val < 2 ^ 64 - 1 → a.column.val < 2 ^ 64 - 1 → ofText a.label = .ok a) ∧
    (∀ text, (∃ a, ofText text = .ok a) ↔
      ∃ letters digits, text = String.ofList (letters ++ digits) ∧ IsLabel letters digits) ∧
    (∀ letters digits a, IsLabel letters digits →
      ofText (String.ofList (letters ++ digits)) = .ok a →
        a.label = String.ofList (letters ++ digits.dropWhile (· == '0'))) ∧
    ∀ u v k l, Column.ofLetters? u = some k → Column.ofLetters? v = some l →
      (k < l ↔ u.length < v.length ∨ u.length = v.length ∧ u < v) := by
  simp only [ofText_eq_ok_iff, label, String.toList_ofList]
  refine ⟨fun a hrow hcolumn => ?_, fun text => ?_, fun letters digits a hlabel h => ?_,
    fun u v k l => Column.lt_iff_of_ofLetters?⟩
  · exact ofLabel?_labelChars (Nat.add_lt_of_lt_sub hrow) (Nat.add_lt_of_lt_sub hcolumn)
  · rw [exists_ofLabel?_iff]
    refine exists_congr fun letters => exists_congr fun digits => and_congr_left fun _ => ?_
    exact ⟨fun h => String.toList_injective (h.trans String.toList_ofList.symm),
      fun h => h ▸ String.toList_ofList⟩
  · rw [labelChars_of_ofLabel? hlabel h]

/-- The last cell that has a label reads back, zeros in front of a row number are dropped, and the
column after `Z` is `AA`. -/
theorem label_codec_last_cell :
    ofText (label ⟨18446744073709551614, 18446744073709551614⟩) =
        .ok ⟨18446744073709551614, 18446744073709551614⟩ ∧
      (ofText "B007" = .ok ⟨6, 1⟩ ∧ label ⟨6, 1⟩ = "B7") ∧ (25 : Coord) < 26 := by
  obtain ⟨hread, -, hwrite, horder⟩ := label_codec
  have hlabel : IsLabel ['B'] ['0', '0', '7'] :=
    ⟨by decide, by simp, by decide, by simp, by decide, by decide, by decide⟩
  have hB : ofText "B007" = .ok ⟨6, 1⟩ := by decide
  have hZ : Column.ofLetters? ['Z'] = some 25 := by decide
  have hAA : Column.ofLetters? ['A', 'A'] = some 26 := by decide
  refine ⟨hread _ (by decide) (by decide), ⟨hB, hwrite _ _ _ hlabel hB⟩, ?_⟩
  exact (horder _ _ _ _ hZ hAA).2 (.inl (by decide))

end Spreadsheet.Address
