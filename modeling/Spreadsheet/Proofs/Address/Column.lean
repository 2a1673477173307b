import Mathlib.Data.List.Induction
import Mathlib.Data.Nat.Digits.Defs
import Mathlib.Tactic.Ring
import Spreadsheet.Address.Column

/-!
# Column letters count

Column letters are the digits of bijective base 26, the letter `A` being the digit one. Without a
zero every number has exactly one numeral, and a longer numeral stands for a larger number.

* `Column.ordinal_eq_ofDigits`: the number that letters write, as a sum over powers of 26.
* `Column.ordinal_numeral` and `Column.numeral_ordinal`: writing and reading are inverse.
* `Column.ordinal_lt_ordinal_iff`: numbers are ordered as their letters are, shorter ones first.
* `Column.ofLetters?_letters`, `Column.letters_of_ofLetters?` and `Column.lt_iff_of_ofLetters?` say
  the same of the columns that letters name.
-/

namespace Spreadsheet.Column

variable {c d : Char} {u v s t : List Char} {n : Nat}

/-! ## Letters -/

theorem isUpper_iff : c.isUpper = true ↔ 'A' ≤ c ∧ c ≤ 'Z' :=
  decide_eq_true_iff

theorem toNat_of_isUpper (hc : c.isUpper = true) : 65 ≤ c.toNat ∧ c.toNat ≤ 90 :=
  isUpper_iff.1 hc

theorem isUpper_letter (hn : n < 26) : (letter n).isUpper = true := by
  have hall : ∀ n < 26, (letter n).isUpper = true := by decide
  exact hall n hn

theorem toNat_letter (hn : n < 26) : (letter n).toNat = 65 + n := by
  have hall : ∀ n < 26, (letter n).toNat = 65 + n := by decide
  exact hall n hn

/-! ## Reading -/

@[simp] theorem ordinal_nil : ordinal [] = 0 := rfl

theorem ordinal_concat (u : List Char) (c : Char) :
    ordinal (u ++ [c]) = ordinal u * 26 + (c.toNat - 64) := by
  simp [ordinal]

/-- The number that letters write is a sum over powers of 26, the last letter counting units. -/
theorem ordinal_eq_ofDigits (u : List Char) :
    ordinal u = Nat.ofDigits 26 (u.reverse.map fun c => c.toNat - 64) := by
  induction u using List.reverseRecOn with
  | nil => rfl
  | append_singleton u c ih =>
    rw [ordinal_concat, ih, List.reverse_concat, List.map_cons, Nat.ofDigits_cons]
    ring

/-- One more letter at the end never makes up for a larger number before it. -/
theorem ordinal_concat_lt_concat_iff (hc : c.isUpper = true) (hd : d.isUpper = true) :
    ordinal (u ++ [c]) < ordinal (v ++ [d]) ↔
      ordinal u < ordinal v ∨ ordinal u = ordinal v ∧ c < d := by
  have hcd : c < d ↔ c.toNat < d.toNat := Iff.rfl
  obtain ⟨hc, hc'⟩ := toNat_of_isUpper hc
  obtain ⟨hd, hd'⟩ := toNat_of_isUpper hd
  rw [ordinal_concat, ordinal_concat, hcd]
  omega

/-- What follows does not matter where the numbers before it differ. -/
theorem ordinal_append_lt_append (hs : s.all Char.isUpper = true) (ht : t.all Char.isUpper = true)
    (hlength : s.length = t.length) (h : ordinal u < ordinal v) :
    ordinal (u ++ s) < ordinal (v ++ t) := by
  induction s generalizing u v t with
  | nil =>
    obtain rfl := List.length_eq_zero_iff.1 hlength.symm
    simpa using h
  | cons c s ih =>
    cases t with
    | nil => cases hlength
    | cons d t =>
      rw [List.all_cons, Bool.and_eq_true] at hs ht
      have hstep : ordinal (u ++ [c]) < ordinal (v ++ [d]) :=
        (ordinal_concat_lt_concat_iff hs.1 ht.1).2 (.inl h)
      simpa using ih hs.2 ht.2 (Nat.succ.inj hlength) hstep

theorem ordinal_pos (hu : u.all Char.isUpper = true) (hne : u ≠ []) : 0 < ordinal u := by
  obtain ⟨v, c, rfl⟩ := (List.eq_nil_or_concat u).resolve_left hne
  have hc : c.isUpper = true := List.all_eq_true.1 hu c (by simp)
  have := (toNat_of_isUpper hc).1
  rw [List.concat_eq_append, ordinal_concat]
  omega

/-! ## Writing -/

theorem numeral_succ (n : Nat) : numeral (n + 1) = numeral (n / 26) ++ [letter (n % 26)] := by
  rw [numeral]

theorem all_isUpper_numeral (n : Nat) : (numeral n).all Char.isUpper = true := by
  induction n using numeral.induct with
  | case1 => simp [numeral]
  | case2 n ih =>
    rw [numeral_succ, List.all_append, ih, List.all_cons, isUpper_letter (Nat.mod_lt _ (by decide))]
    rfl

/-- Reading undoes writing. -/
theorem ordinal_numeral (n : Nat) : ordinal (numeral n) = n := by
  induction n using numeral.induct with
  | case1 => simp [numeral]
  | case2 n ih =>
    rw [numeral_succ, ordinal_concat, ih, toNat_letter (Nat.mod_lt _ (by decide))]
    omega

/-- Writing undoes reading. -/
theorem numeral_ordinal (hu : u.all Char.isUpper = true) : numeral (ordinal u) = u := by
  induction u using List.reverseRecOn with
  | nil => simp [numeral]
  | append_singleton u c ih =>
    rw [List.all_append, Bool.and_eq_true] at hu
    obtain ⟨hc, hc'⟩ := toNat_of_isUpper (by simpa using hu.2)
    -- the digits from 1 to 26 are counted from 0 here, which is what takes the borrow out
    have hordinal : ordinal (u ++ [c]) = ordinal u * 26 + (c.toNat - 65) + 1 := by
      rw [ordinal_concat]
      omega
    have hdiv : (ordinal u * 26 + (c.toNat - 65)) / 26 = ordinal u := by omega
    have hmod : (ordinal u * 26 + (c.toNat - 65)) % 26 = c.toNat - 65 := by omega
    have hletter : letter (c.toNat - 65) = c := by
      rw [letter, show 65 + (c.toNat - 65) = c.toNat by omega, Char.ofNat_toNat]
    rw [hordinal, numeral_succ, hdiv, hmod, ih hu.1, hletter]

/-! ## Order -/

/-- A later letter makes a larger number, whatever letters stand before and after it. -/
theorem ordinal_append_lt_append_of_lt (p : List Char) (hu : u.all Char.isUpper = true)
    (hv : v.all Char.isUpper = true) (hlength : u.length = v.length) (h : u < v) :
    ordinal (p ++ u) < ordinal (p ++ v) := by
  induction u generalizing p v with
  | nil =>
    obtain rfl := List.length_eq_zero_iff.1 hlength.symm
    exact absurd h (List.lt_irrefl [])
  | cons c u ih =>
    cases v with
    | nil => cases hlength
    | cons d v =>
      rw [List.all_cons, Bool.and_eq_true] at hu hv
      have htail : u.length = v.length := Nat.succ.inj hlength
      rcases List.cons_lt_cons_iff.1 h with hcd | ⟨rfl, huv⟩
      · have hstep : ordinal (p ++ [c]) < ordinal (p ++ [d]) :=
          (ordinal_concat_lt_concat_iff hu.1 hv.1).2 (.inr ⟨rfl, hcd⟩)
        simpa using ordinal_append_lt_append hu.2 hv.2 htail hstep
      · simpa using ih (p ++ [c]) hu.2 hv.2 htail huv

/-- Longer numerals stand for larger numbers. -/
theorem ordinal_lt_of_length_lt (hu : u.all Char.isUpper = true) (hv : v.all Char.isUpper = true)
    (h : u.length < v.length) : ordinal u < ordinal v := by
  let k := v.length - u.length
  have hsplit : v.take k ++ v.drop k = v := List.take_append_drop k v
  have hall : (v.take k).all Char.isUpper = true ∧ (v.drop k).all Char.isUpper = true := by
    rwa [← hsplit, List.all_append, Bool.and_eq_true] at hv
  have hne : v.take k ≠ [] := by
    rw [← List.length_pos_iff, List.length_take]
    omega
  have hlength : u.length = (v.drop k).length := by
    rw [List.length_drop]
    omega
  have := ordinal_append_lt_append hu hall.2 hlength (u := []) (v := v.take k)
    (ordinal_pos hall.1 hne)
  rwa [List.nil_append, hsplit] at this

theorem ordinal_lt_ordinal (hu : u.all Char.isUpper = true) (hv : v.all Char.isUpper = true)
    (h : u.length < v.length ∨ u.length = v.length ∧ u < v) : ordinal u < ordinal v := by
  rcases h with h | ⟨hlength, h⟩
  · exact ordinal_lt_of_length_lt hu hv h
  · exact ordinal_append_lt_append_of_lt [] hu hv hlength h

/-- **Numbers are ordered as their letters are**: shorter ones first, and those of one length as in
a dictionary. -/
theorem ordinal_lt_ordinal_iff (hu : u.all Char.isUpper = true) (hv : v.all Char.isUpper = true) :
    ordinal u < ordinal v ↔ u.length < v.length ∨ u.length = v.length ∧ u < v := by
  refine ⟨fun h => ?_, ordinal_lt_ordinal hu hv⟩
  by_contra hnot
  have hback : u = v ∨ ordinal v < ordinal u := by
    rcases Nat.lt_trichotomy u.length v.length with hlength | hlength | hlength
    · exact absurd (.inl hlength) hnot
    · rcases Std.lt_trichotomy u v with huv | huv | huv
      · exact absurd (.inr ⟨hlength, huv⟩) hnot
      · exact .inl huv
      · exact .inr (ordinal_lt_ordinal hv hu (.inr ⟨hlength.symm, huv⟩))
    · exact .inr (ordinal_lt_ordinal hv hu (.inl hlength))
  rcases hback with rfl | hback
  · exact Nat.lt_irrefl _ h
  · exact Nat.lt_asymm h hback

/-! ## Columns -/

variable {k l : Coord}

theorem ofLetters?_eq_some_iff :
    ofLetters? u = some k ↔ u.all Char.isUpper = true ∧ k.val + 1 < Coord.count ∧
      ordinal u = k.val + 1 := by
  unfold ofLetters?
  split
  · rename_i hu
    rw [Coord.ofOrdinal?_eq_some_iff]
    refine ⟨fun ⟨hcount, hk⟩ => ⟨hu, hk ▸ hcount, hk⟩, fun ⟨_, hcount, hk⟩ => ⟨?_, hk⟩⟩
    exact hk.symm ▸ hcount
  · rename_i hu
    simp [hu]

/-- Letters name a column if there are any and the number that they write fits a 64-bit word. -/
theorem exists_ofLetters?_iff :
    (∃ k, ofLetters? u = some k) ↔
      u ≠ [] ∧ u.all Char.isUpper = true ∧ ordinal u < Coord.count := by
  constructor
  · rintro ⟨k, hk⟩
    obtain ⟨hu, hcount, hordinal⟩ := ofLetters?_eq_some_iff.1 hk
    refine ⟨?_, hu, hordinal ▸ hcount⟩
    rintro rfl
    cases hordinal
  · rintro ⟨hne, hu, hcount⟩
    have hpos := ordinal_pos hu hne
    have hordinal : ordinal u = ordinal u - 1 + 1 := by omega
    exact ⟨⟨ordinal u - 1, Nat.lt_of_le_of_lt (Nat.sub_le _ _) hcount⟩,
      ofLetters?_eq_some_iff.2 ⟨hu, hordinal ▸ hcount, hordinal⟩⟩

/-- The letters of a column name it, unless it is the last of the axis. -/
theorem ofLetters?_letters (hk : k.val + 1 < Coord.count) : ofLetters? (letters k) = some k :=
  ofLetters?_eq_some_iff.2 ⟨all_isUpper_numeral _, hk, ordinal_numeral _⟩

/-- A column has no other letters than its own. -/
theorem letters_of_ofLetters? (hu : ofLetters? u = some k) : letters k = u := by
  obtain ⟨hall, -, hk⟩ := ofLetters?_eq_some_iff.1 hu
  rw [letters, ← hk, numeral_ordinal hall]

/-- Columns are ordered as their letters are. -/
theorem lt_iff_of_ofLetters? (hu : ofLetters? u = some k) (hv : ofLetters? v = some l) :
    k < l ↔ u.length < v.length ∨ u.length = v.length ∧ u < v := by
  obtain ⟨hu, -, hk⟩ := ofLetters?_eq_some_iff.1 hu
  obtain ⟨hv, -, hl⟩ := ofLetters?_eq_some_iff.1 hv
  rw [← ordinal_lt_ordinal_iff hu hv, hk, hl, Fin.lt_def, Nat.add_lt_add_iff_right]

end Spreadsheet.Column
