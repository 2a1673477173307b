import Mathlib.Data.List.TakeWhile
import Mathlib.Tactic.ByContra
import Mathlib.Tactic.Tauto
import Spreadsheet.Formula.Dependency
import Spreadsheet.Proofs.Address.Distinct
import Spreadsheet.Text.Blank

/-!
# What a formula mentions

* `Text.pieces_append_cons`: a character that belongs to no word separates the words around it.
* `Formula.mentions_pieces_append`: if it is no colon either, it separates the mentions as well.
* `Formula.codeMentions` are the mentions outside string literals. Dependencies and references are
  read off them, the former by `Mention.cells` and the latter by `Mention.named`
  (`Formula.mem_dependencies_iff`, `Formula.references_eq`).
-/

namespace Spreadsheet

/-! ## Words -/

namespace Text

variable {c : Char} {u v w : List Char} {p : Char → Bool}

/-- The code points of the blank characters. -/
def blankCodes : List Nat :=
  [9, 10, 11, 12, 13, 0x20, 0x85, 0xA0, 0x1680, 0x2000, 0x2001, 0x2002, 0x2003, 0x2004, 0x2005,
    0x2006, 0x2007, 0x2008, 0x2009, 0x200A, 0x2028, 0x2029, 0x202F, 0x205F, 0x3000]

theorem mem_blankCodes_of_range {n : Nat} (low count : Nat)
    (hrange : ∀ k ∈ List.range' low count, k ∈ blankCodes) (hlow : low ≤ n)
    (hhigh : n < low + count) : n ∈ blankCodes :=
  hrange n (List.mem_range'_1.2 ⟨hlow, hhigh⟩)

theorem toNat_mem_blankCodes (h : isBlank c = true) : c.toNat ∈ blankCodes := by
  simp only [isBlank, Bool.or_eq_true, Bool.and_eq_true, decide_eq_true_eq, beq_iff_eq,
    or_assoc] at h
  rcases h with h | h | h | h | h | h | h
  · exact mem_blankCodes_of_range 9 5 (by decide) h.1 (by omega)
  · rw [h]; decide
  · rw [h]; decide
  · rw [h]; decide
  · rw [h]; decide
  · exact mem_blankCodes_of_range 0x2000 11 (by decide) h.1 (by omega)
  · rcases h with h | h | h | h | h <;> rw [h] <;> decide

/-- Blanks belong to no word. -/
theorem isWordChar_of_isBlank (h : isBlank c = true) : isWordChar c = false := by
  have hall : ∀ n ∈ blankCodes, isWordChar (Char.ofNat n) = false := by decide +kernel
  have := hall c.toNat (toNat_mem_blankCodes h)
  rwa [Char.ofNat_toNat] at this

theorem ne_of_isBlank {d : Char} (h : isBlank c = true) (hd : isBlank d = false) : c ≠ d := by
  rintro rfl
  simp [h] at hd

theorem isAlphanum_iff :
    c.isAlphanum = true ↔ (c.isUpper = true ∨ c.isLower = true) ∨ c.isDigit = true := by
  change ((c.isUpper || c.isLower) || c.isDigit) = true ↔ _
  simp only [Bool.or_eq_true]

theorem isWordChar_of_isAlphanum (h : c.isAlphanum = true) : isWordChar c = true := by
  have hbound : ∀ high : UInt32, c.val ≤ high → c.toNat ≤ high.toNat :=
    fun high hc => UInt32.le_iff_toNat_le.1 hc
  have hlt : c.toNat < 128 := by
    rcases isAlphanum_iff.1 h with (hupper | hlower) | hdigit
    · change decide (c.val ≥ 65 ∧ c.val ≤ 90) = true at hupper
      exact Nat.lt_of_le_of_lt (hbound 90 (of_decide_eq_true hupper).2) (by decide)
    · change (decide (c.val ≥ 97) && decide (c.val ≤ 122)) = true at hlower
      exact Nat.lt_of_le_of_lt (hbound 122 (by simp_all)) (by decide)
    · change (decide (c.val ≥ 48) && decide (c.val ≤ 57)) = true at hdigit
      exact Nat.lt_of_le_of_lt (hbound 57 (by simp_all)) (by decide)
  simp [isWordChar, hlt, h]

theorem takeWhile_append_cons (hc : p c = false) :
    (u ++ c :: v).takeWhile p = u.takeWhile p := by
  induction u with
  | nil => simp [hc]
  | cons d u ih => by_cases hd : p d <;> simp [hd, ih]

theorem dropWhile_append_cons (hc : p c = false) :
    (u ++ c :: v).dropWhile p = u.dropWhile p ++ c :: v := by
  induction u with
  | nil => simp [hc]
  | cons d u ih => by_cases hd : p d <;> simp [hd, ih]

theorem pieces_cons_of_not (hc : isWordChar c = false) : pieces (c :: v) = [c] :: pieces v := by
  rw [pieces]
  simp [hc]

/-- A character that belongs to no word separates the words around it. -/
theorem pieces_append_cons (hc : isWordChar c = false) :
    pieces (u ++ c :: v) = pieces u ++ [c] :: pieces v := by
  fun_induction pieces u with
  | case1 => simp [pieces_cons_of_not hc]
  | case2 d rest hd ih =>
    rw [List.cons_append, pieces, if_pos hd, takeWhile_append_cons hc, dropWhile_append_cons hc, ih,
      List.cons_append]
  | case3 d rest hd ih =>
    rw [List.cons_append, pieces_cons_of_not (by simpa using hd), ih, List.cons_append]

/-- A word is a single piece. -/
theorem pieces_word (hne : w ≠ []) (hw : ∀ c ∈ w, isWordChar c = true) : pieces w = [w] := by
  cases w with
  | nil => exact absurd rfl hne
  | cons c w =>
    obtain ⟨hc, hw⟩ := List.forall_mem_cons.1 hw
    rw [pieces, if_pos hc, List.takeWhile_eq_self_iff.2 hw, List.dropWhile_eq_nil_iff.2 hw,
      pieces_nil]

end Text

/-! ## Labels -/

namespace Address

variable {c : Char} {w : List Char}

/-- A label is made of capital letters and digits. -/
theorem isAlphanum_of_mem (hw : isLabelShaped w = true) (hc : c ∈ w) : c.isAlphanum = true := by
  simp only [isLabelShaped, Bool.and_eq_true, List.all_eq_true] at hw
  rw [← List.takeWhile_append_dropWhile (p := Char.isUpper) (l := w), List.mem_append] at hc
  rcases hc with hc | hc
  · exact Text.isAlphanum_iff.2 (.inl (.inl (List.all_eq_true.1 List.all_takeWhile c hc)))
  · exact Text.isAlphanum_iff.2 (.inr (hw.2 c hc))

theorem ne_nil_of_isLabelShaped (hw : isLabelShaped w = true) : w ≠ [] := by
  rintro rfl
  simp [isLabelShaped] at hw

theorem isLabelShaped_singleton : isLabelShaped [c] = false := by
  cases hc : c.isUpper <;> simp [isLabelShaped, hc]

theorem isLabelShaped_of_ofLabel? {a : Address} (h : ofLabel? w = some a) :
    isLabelShaped w = true := by
  by_contra hw
  simp [ofLabel?, hw] at h

end Address

namespace Formula

open Text

variable {c : Char} {u v w first last : List Char} {A B : List (List Char)}

/-- A label is a single piece of a text. -/
theorem pieces_label (hw : Address.isLabelShaped w = true) : pieces w = [w] :=
  pieces_word (Address.ne_nil_of_isLabelShaped hw) fun _ hc =>
    isWordChar_of_isAlphanum (Address.isAlphanum_of_mem hw hc)

/-! ## Mentions -/

@[simp] theorem mentions_nil : mentions [] = [] := by
  rw [mentions]

/-- A piece that is not shaped like a label is no mention. -/
theorem mentions_cons_of_not (hw : Address.isLabelShaped w = false) :
    mentions (w :: B) = mentions B := by
  rw [mentions]
  simp [hw]

theorem mentions_cons_of_rangeEnd? {after : List (List Char)}
    (hw : Address.isLabelShaped w = true) (h : rangeEnd? B = some (last, after)) :
    mentions (w :: B) = .range w last :: mentions after := by
  rw [mentions, if_pos hw]
  split
  · simp_all
  · simp_all

theorem mentions_cons_of_rangeEnd?_eq_none (hw : Address.isLabelShaped w = true)
    (h : rangeEnd? B = none) : mentions (w :: B) = .cell w :: mentions B := by
  rw [mentions, if_pos hw]
  split
  · simp_all
  · rfl

/-- A single character that is no colon ends a range before it. -/
theorem rangeEnd?_append (hc : c ≠ ':') :
    rangeEnd? (A ++ [c] :: B) = (rangeEnd? A).map fun found => (found.1, found.2 ++ [c] :: B) := by
  match A with
  | [] => cases B <;> simp [rangeEnd?, hc]
  | [x] => simp [rangeEnd?, Address.isLabelShaped_singleton]
  | x :: y :: after =>
    simp only [List.cons_append, rangeEnd?]
    split <;> rfl

/-- A character that is neither of a word nor a colon separates the mentions around it. -/
theorem mentions_append (hc : c ≠ ':') : mentions (A ++ [c] :: B) = mentions A ++ mentions B := by
  fun_induction mentions A with
  | case1 => simp [mentions_cons_of_not Address.isLabelShaped_singleton]
  | case2 piece rest hpiece label after h ih =>
    have hend := rangeEnd?_append (A := rest) (B := B) hc
    rw [h, Option.map_some] at hend
    rw [List.cons_append, mentions_cons_of_rangeEnd? hpiece hend, ih, List.cons_append]
  | case3 piece rest hpiece h ih =>
    have hend := rangeEnd?_append (A := rest) (B := B) hc
    rw [h, Option.map_none] at hend
    rw [List.cons_append, mentions_cons_of_rangeEnd?_eq_none hpiece hend, ih, List.cons_append]
  | case4 piece rest hpiece ih =>
    rw [List.cons_append, mentions_cons_of_not (by simpa using hpiece), ih]

theorem mentions_pieces_append (hc : isWordChar c = false) (hcolon : c ≠ ':') :
    mentions (pieces (u ++ c :: v)) = mentions (pieces u) ++ mentions (pieces v) := by
  rw [pieces_append_cons hc, mentions_append hcolon]

theorem mentions_pieces_cons (hc : isWordChar c = false) :
    mentions (pieces (c :: v)) = mentions (pieces v) := by
  rw [pieces_cons_of_not hc, mentions_cons_of_not Address.isLabelShaped_singleton]

theorem mentions_pieces_label (hw : Address.isLabelShaped w = true) :
    mentions (pieces w) = [.cell w] := by
  rw [pieces_label hw, mentions_cons_of_rangeEnd?_eq_none hw rfl, mentions_nil]

theorem mentions_pieces_range (hfirst : Address.isLabelShaped first = true)
    (hlast : Address.isLabelShaped last = true) :
    mentions (pieces (first ++ ':' :: last)) = [.range first last] := by
  have hend : rangeEnd? ([':'] :: [last]) = some (last, []) := by simp [rangeEnd?, hlast]
  rw [pieces_append_cons (by decide), pieces_label hfirst, pieces_label hlast,
    List.singleton_append, mentions_cons_of_rangeEnd? hfirst hend, mentions_nil]

/-! ## Code -/

@[simp] theorem codeSegments_nil : codeSegments [] = [] := by
  rw [codeSegments, segments]
  rfl

theorem codeSegments_mark (text : List Char) :
    codeSegments ('"' :: text) = codeSegments (literalSpan text).2 := by
  rw [codeSegments, segments, if_pos (by rfl)]
  rfl

theorem codeSegments_cons (hc : c ≠ '"') (text : List Char) :
    codeSegments (c :: text) =
      (c :: text.takeWhile isCodeChar) :: codeSegments (text.dropWhile isCodeChar) := by
  rw [codeSegments, segments, if_neg (by simpa using hc)]
  rfl

/-- The mentions in the code of a text. -/
def codeMentions (text : List Char) : List Mention :=
  (codeSegments text).flatMap fun code => mentions (pieces code)

@[simp] theorem codeMentions_nil : codeMentions [] = [] := by
  simp [codeMentions]

/-- A character in front that is of no word changes no mention. -/
theorem codeMentions_cons (hc : isWordChar c = false) (hmark : c ≠ '"') (text : List Char) :
    codeMentions (c :: text) = codeMentions text := by
  rw [codeMentions, codeSegments_cons hmark, List.flatMap_cons, mentions_pieces_cons hc]
  cases text with
  | nil => simp
  | cons d text =>
    by_cases hd : d = '"'
    · subst hd
      simp [codeMentions, isCodeChar]
    · have hcode : isCodeChar d = true := by simpa [isCodeChar] using hd
      rw [codeMentions, codeSegments_cons hd, List.flatMap_cons, List.takeWhile_cons_of_pos hcode,
        List.dropWhile_cons_of_pos hcode]

/-- The mentions of a text without quotation marks. -/
theorem codeMentions_of_code {text : List Char} (h : ∀ c ∈ text, c ≠ '"') :
    codeMentions text = mentions (pieces text) := by
  cases text with
  | nil => simp
  | cons c text =>
    obtain ⟨hc, htext⟩ := List.forall_mem_cons.1 h
    have hcode : ∀ d ∈ text, isCodeChar d = true := fun d hd => by
      simpa [isCodeChar] using htext d hd
    rw [codeMentions, codeSegments_cons hc, List.takeWhile_eq_self_iff.2 hcode,
      List.dropWhile_eq_nil_iff.2 hcode]
    simp

/-! ## Dependencies and references -/

namespace Mention

/-- The cells whose labels a mention is made of. -/
def named : Mention → List Address
  | cell label => (Address.ofLabel? label).toList
  | range first last => (Address.ofLabel? first).toList ++ (Address.ofLabel? last).toList

end Mention

/-- The dependencies of a formula are the cells of what its code mentions. -/
theorem mem_dependencies_iff {text : String} {a : Address} :
    a ∈ dependencies text ↔ ∃ m ∈ codeMentions text.toList, a ∈ m.cells := by
  rw [dependencies, Address.mem_distinct]
  simp only [List.mem_flatMap, segmentCells, List.mem_append, List.mem_filter, codeMentions]
  constructor
  · rintro ⟨code, hcode, m, hm | hm, ha⟩
    · exact ⟨m, ⟨code, hcode, hm.1⟩, ha⟩
    · exact ⟨m, ⟨code, hcode, hm.1⟩, ha⟩
  · rintro ⟨m, ⟨code, hcode, hm⟩, ha⟩
    refine ⟨code, hcode, m, ?_, ha⟩
    cases hrange : m.isRange with
    | true => exact .inl ⟨hm, rfl⟩
    | false => exact .inr ⟨hm, rfl⟩

theorem flatMap_named (A : List (List Char)) :
    (mentions A).flatMap Mention.named = A.filterMap Address.ofLabel? := by
  fun_induction mentions A with
  | case1 => rfl
  | case2 piece rest hpiece label after h ih =>
    unfold rangeEnd? at h
    split at h
    · split at h
      · rename_i hcolon
        simp only [Bool.and_eq_true, beq_iff_eq] at hcolon
        cases h
        have hnone : Address.ofLabel? [':'] = none := by decide
        rw [List.flatMap_cons, ih, hcolon.1, Mention.named, List.filterMap_cons,
          List.filterMap_cons, List.filterMap_cons, hnone]
        cases Address.ofLabel? piece <;> cases Address.ofLabel? label <;> rfl
      · cases h
    · cases h
  | case3 piece rest hpiece h ih =>
    rw [List.flatMap_cons, ih, Mention.named, List.filterMap_cons]
    cases Address.ofLabel? piece <;> rfl
  | case4 piece rest hpiece ih =>
    have hnone : Address.ofLabel? piece = none := by
      simp [Address.ofLabel?, hpiece]
    rw [ih, List.filterMap_cons, hnone]

/-- The references of a text are the cells named by the labels of what its code mentions. -/
theorem references_eq (text : List Char) :
    references text = (codeMentions text).flatMap Mention.named := by
  rw [references, codeMentions, List.flatMap_assoc]
  congr 1
  funext code
  exact (flatMap_named _).symm

end Formula

end Spreadsheet
