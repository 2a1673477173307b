import Mathlib.Data.List.Chain
import Spreadsheet.Proofs.Formula.Coverage
import Spreadsheet.Proofs.Formula.Position

/-!
# The words of a formula

* `words` cuts a formula into the words of its code and the single characters between them. A string
  literal is one word, which names no cell.
* `isChain_words`: between two words next to each other code goes on, and they could not be one
  word.
-/

namespace Spreadsheet.Formula

open Text

variable {c : Char} {text w w' rest : List Char} {cells : Cells} {a : Address}

/-- The words of a segment. -/
def Segment.words : Segment → List (List Char)
  | code text => pieces text
  | literal text => [text]

/-- The words of a formula. -/
def words (text : List Char) : List (List Char) :=
  (segments text).flatMap Segment.words

@[simp] theorem words_nil : words [] = [] := by
  rw [words, segments]
  rfl

theorem words_mark (text : List Char) :
    words ('"' :: text) = ('"' :: (literalSpan text).1) :: words (literalSpan text).2 := by
  rw [words, segments, if_pos (by rfl)]
  rfl

theorem words_code (hc : c ≠ '"') (text : List Char) :
    words (c :: text) =
      pieces (c :: text.takeWhile isCodeChar) ++ words (text.dropWhile isCodeChar) := by
  rw [words, segments, if_neg (by simpa using hc)]
  rfl

/-! ## Neighbours -/

/-- Two words next to each other. The first one ends outside string literals, and one of them has no
character of a word where they meet. -/
structure Neighbours (w w' : List Char) : Prop where
  code : Position.code.afterAll w = .code
  apart : ∃ c ∈ w.getLast?, ∃ d ∈ w'.head?, isWordChar c = true → isWordChar d = false

/-- The first piece of a text starts as the text does. -/
theorem head?_of_mem_head?_pieces (h : w ∈ (pieces text).head?) : w.head? = text.head? := by
  cases text with
  | nil => simp at h
  | cons c text =>
    rw [pieces] at h
    split at h <;> · cases h; rfl

theorem ne_nil_of_mem_pieces (h : w ∈ pieces text) : w ≠ [] := by
  fun_induction pieces text with
  | case1 => cases h
  | case2 c rest hc ih =>
    rcases List.mem_cons.1 h with rfl | h
    · exact List.cons_ne_nil _ _
    · exact ih h
  | case3 c rest hc ih =>
    rcases List.mem_cons.1 h with rfl | h
    · exact List.cons_ne_nil _ _
    · exact ih h

theorem isCodeChar_of_mem_takeWhile (h : c ∈ text.takeWhile isCodeChar) : c ≠ '"' := by
  have := List.all_eq_true.1 List.all_takeWhile c h
  simpa [isCodeChar] using this

/-- The first word of a text starts as the text does. -/
theorem head?_of_mem_head?_words (h : w ∈ (words text).head?) : w.head? = text.head? := by
  cases text with
  | nil => simp at h
  | cons c text =>
    by_cases hc : c = '"'
    · subst hc
      rw [words_mark] at h
      cases h
      rfl
    · rw [words_code hc] at h
      have hne : pieces (c :: text.takeWhile isCodeChar) ≠ [] := fun hnil => by
        have hflatten := flatten_pieces (c :: text.takeWhile isCodeChar)
        rw [hnil] at hflatten
        cases hflatten
      rw [List.head?_append_of_ne_nil _ hne] at h
      rw [head?_of_mem_head?_pieces h]
      rfl

/-- Code is its own neighbour on either side of a border between words. -/
theorem neighbours_of_code (hw : ∀ c ∈ w, c ≠ '"') (hne : w ≠ []) {d : Char}
    (hd : w'.head? = some d) (hborder : (∀ c ∈ w, isWordChar c = false) ∨ isWordChar d = false) :
    Neighbours w w' where
  code := (Position.afterAll_eq_code_iff hw).2 rfl
  apart := by
    refine ⟨w.getLast hne, List.getLast?_eq_some_getLast hne, d, hd, fun hc => ?_⟩
    refine hborder.resolve_left fun h => ?_
    rw [h _ (List.getLast_mem hne)] at hc
    cases hc

theorem isChain_pieces (htext : ∀ c ∈ text, c ≠ '"') : (pieces text).IsChain Neighbours := by
  have exists_head {w' text : List Char} (h : w' ∈ (pieces text).head?) :
      ∃ d rest, text = d :: rest ∧ w'.head? = some d := by
    cases text with
    | nil => simp at h
    | cons d rest => exact ⟨d, rest, rfl, head?_of_mem_head?_pieces h⟩
  fun_induction pieces text with
  | case1 => exact .nil
  | case2 c rest hc ih =>
    obtain ⟨hmark, hrest⟩ := List.forall_mem_cons.1 htext
    have hdrop := ih fun d hd => hrest d ((List.dropWhile_sublist _).mem hd)
    have hword : ∀ d ∈ c :: rest.takeWhile isWordChar, d ≠ '"' :=
      List.forall_mem_cons.2 ⟨hmark, fun d hd => hrest d ((List.takeWhile_sublist _).mem hd)⟩
    refine List.isChain_cons.2 ⟨fun w' hw' => ?_, hdrop⟩
    obtain ⟨d, later, hlater, hd⟩ := exists_head hw'
    have hend := List.head?_dropWhile_not isWordChar rest
    rw [hlater] at hend
    exact neighbours_of_code hword (List.cons_ne_nil _ _) hd (.inr (by simpa using hend))
  | case3 c rest hc ih =>
    obtain ⟨hmark, hrest⟩ := List.forall_mem_cons.1 htext
    refine List.isChain_cons.2 ⟨fun w' hw' => ?_, ih hrest⟩
    obtain ⟨d, later, -, hd⟩ := exists_head hw'
    exact neighbours_of_code (by simpa using hmark) (List.cons_ne_nil _ _) hd
      (.inl (by simpa using hc))

/-- A literal with something behind it is closed. -/
theorem exists_of_literalSpan (h : (literalSpan text).2 ≠ []) :
    ∃ inside, (literalSpan text).1 = inside ++ ['"'] ∧
      Position.literal.afterAll (literalSpan text).1 = .code := by
  fun_induction literalSpan text with
  | case1 => exact absurd rfl h
  | case2 c rest hc =>
    obtain rfl : c = '"' := by simpa using hc
    exact ⟨[], rfl, rfl⟩
  | case3 c hc hescape => exact absurd rfl h
  | case4 c hc hescape d after ih =>
    obtain ⟨inside, hspan, hcode⟩ := ih h
    refine ⟨c :: d :: inside, congrArg (c :: d :: ·) hspan, ?_⟩
    simp_all [Position.after]
  | case5 c rest hc hescape ih =>
    obtain ⟨inside, hspan, hcode⟩ := ih h
    refine ⟨c :: inside, congrArg (c :: ·) hspan, ?_⟩
    simp_all [Position.after]

/-- The span of a literal is its own span. -/
theorem literalSpan_literalSpan (text : List Char) :
    literalSpan (literalSpan text).1 = ((literalSpan text).1, []) := by
  fun_induction literalSpan text with
  | case1 => rfl
  | case2 c rest hc => simp_all
  | case3 c hc hescape => simp_all [literalSpan]
  | case4 c hc hescape d after ih => simp_all
  | case5 c rest hc hescape ih => simp_all [literalSpan_plain]

/-- A word is code or the span of a literal. -/
theorem cases_of_mem_words (hw : w ∈ words text) :
    (∀ c ∈ w, c ≠ '"') ∨ ∃ rest, w = '"' :: (literalSpan rest).1 := by
  fun_induction segments text with
  | case1 =>
    rw [words_nil] at hw
    cases hw
  | case2 c rest hc ih =>
    obtain rfl : c = '"' := by simpa using hc
    rw [words_mark] at hw
    rcases List.mem_cons.1 hw with rfl | hw
    · exact .inr ⟨rest, rfl⟩
    · exact ih hw
  | case3 c rest hc ih =>
    have hc : c ≠ '"' := by simpa using hc
    rw [words_code hc] at hw
    rcases List.mem_append.1 hw with hw | hw
    · refine .inl fun d hd => ?_
      have hmem : d ∈ c :: rest.takeWhile isCodeChar := by
        rw [← flatten_pieces (c :: rest.takeWhile isCodeChar)]
        exact List.mem_flatten.2 ⟨w, hw, hd⟩
      rcases List.mem_cons.1 hmem with rfl | hmem
      · exact hc
      · exact isCodeChar_of_mem_takeWhile hmem
    · exact ih hw

/-- **Words next to each other** are neighbours. -/
theorem isChain_words (text : List Char) : (words text).IsChain Neighbours := by
  have hmark : isWordChar '"' = false := by decide
  fun_induction segments text with
  | case1 =>
    rw [words_nil]
    exact .nil
  | case2 c rest hc ih =>
    obtain rfl : c = '"' := by simpa using hc
    rw [words_mark]
    refine List.isChain_cons.2 ⟨fun w' hw' => ?_, ih⟩
    have hne : (literalSpan rest).2 ≠ [] := fun hnil => by
      rw [hnil, words_nil] at hw'
      cases hw'
    obtain ⟨d, later, hlater⟩ := List.exists_cons_of_ne_nil hne
    obtain ⟨inside, hspan, hcode⟩ := exists_of_literalSpan hne
    have hd : w'.head? = some d := by rw [head?_of_mem_head?_words hw', hlater]; rfl
    refine ⟨hcode, '"', ?_, d, hd, by simp [hmark]⟩
    rw [hspan, ← List.cons_append, List.getLast?_concat]
    rfl
  | case3 c rest hc ih =>
    have hc : c ≠ '"' := by simpa using hc
    have hcode : ∀ d ∈ c :: rest.takeWhile isCodeChar, d ≠ '"' :=
      List.forall_mem_cons.2 ⟨hc, fun d hd => isCodeChar_of_mem_takeWhile hd⟩
    rw [words_code hc]
    refine List.isChain_append.2 ⟨isChain_pieces hcode, ih, fun w hw w' hw' => ?_⟩
    have hmem : w ∈ pieces (c :: rest.takeWhile isCodeChar) := List.mem_of_getLast? hw
    have hne : rest.dropWhile isCodeChar ≠ [] := fun hnil => by
      rw [hnil, words_nil] at hw'
      cases hw'
    obtain ⟨d, later, hlater⟩ := List.exists_cons_of_ne_nil hne
    have hend := List.head?_dropWhile_not isCodeChar rest
    rw [hlater] at hend
    obtain rfl : d = '"' := by simpa [isCodeChar] using hend
    refine neighbours_of_code (fun e he => ?_) (ne_nil_of_mem_pieces hmem)
      (d := '"') ?_ (.inr hmark)
    · refine hcode e ?_
      rw [← flatten_pieces (c :: rest.takeWhile isCodeChar)]
      exact List.mem_flatten.2 ⟨w, hmem, he⟩
    · rw [head?_of_mem_head?_words hw', hlater]
      rfl

/-! ## Labels among the words -/

theorem isWordChar_of_label (h : Address.ofLabel? w = some a) (hc : c ∈ w) :
    isWordChar c = true :=
  isWordChar_of_isAlphanum (Address.isAlphanum_of_mem (Address.isLabelShaped_of_ofLabel? h) hc)

/-- A word that is no run of letters and digits names no cell. -/
theorem ofLabel?_eq_none (hc : c ∈ w) (hword : isWordChar c = false) :
    Address.ofLabel? w = none := by
  rw [Option.eq_none_iff_forall_ne_some]
  intro a ha
  rw [isWordChar_of_label ha hc] at hword
  cases hword

/-- A label ends with a digit. -/
theorem exists_getLast?_of_label (h : Address.ofLabel? w = some a) :
    ∃ c ∈ w.getLast?, c.isDigit = true := by
  have hshape := Address.isLabelShaped_of_ofLabel? h
  simp only [Address.isLabelShaped, Bool.and_eq_true, List.all_eq_true] at hshape
  obtain ⟨⟨-, hne⟩, hdigits⟩ := hshape
  have hne : w.dropWhile Char.isUpper ≠ [] := by simpa using hne
  refine ⟨_, ?_, hdigits _ (List.getLast_mem hne)⟩
  have hlast : (w.takeWhile Char.isUpper ++ w.dropWhile Char.isUpper).getLast? =
      some ((w.dropWhile Char.isUpper).getLast hne) := by
    rw [List.getLast?_append, List.getLast?_eq_some_getLast hne]
    rfl
  rwa [List.takeWhile_append_dropWhile] at hlast

theorem head?_of_mem_segments (h : .literal w ∈ segments text) : w.head? = some '"' := by
  fun_induction segments text with
  | case1 => cases h
  | case2 c rest hc ih =>
    rcases List.mem_cons.1 h with h | h
    · cases h
      simpa using hc
    · exact ih h
  | case3 c rest hc ih =>
    rcases List.mem_cons.1 h with h | h
    · cases h
    · exact ih h

/-- A string literal names no cell. -/
theorem ofLabel?_eq_none_of_literal (h : .literal w ∈ segments text) :
    Address.ofLabel? w = none :=
  ofLabel?_eq_none (List.mem_of_mem_head? (head?_of_mem_segments h)) (by decide)

/-- The words that name cells are the references. -/
theorem mem_references_of_mem_words (hw : w ∈ words text) (ha : Address.ofLabel? w = some a) :
    a ∈ references text := by
  obtain ⟨s, hs, hw⟩ := List.mem_flatMap.1 hw
  cases s with
  | code code => exact mem_references_of_segment hs hw ha
  | literal literal =>
    obtain rfl : w = literal := List.mem_singleton.1 hw
    rw [ofLabel?_eq_none_of_literal hs] at ha
    cases ha

/-- A reference is a word that names a cell. -/
theorem exists_mem_words (ha : a ∈ references text) :
    ∃ w ∈ words text, Address.ofLabel? w = some a := by
  obtain ⟨code, hcode, ha⟩ := List.mem_flatMap.1 ha
  obtain ⟨w, hw, ha⟩ := List.mem_filterMap.1 ha
  obtain ⟨s, hs, hcode⟩ := List.mem_filterMap.1 hcode
  cases s with
  | code =>
    cases hcode
    exact ⟨w, List.mem_flatMap.2 ⟨_, hs, hw⟩, ha⟩
  | literal => cases hcode

/-- Substitution goes word by word. -/
theorem substitute_eq_flatMap_words (cells : Cells) (body : List Char) :
    substitute cells body = (words body).flatMap (substituteWord cells) := by
  rw [substitute, words, List.flatMap_assoc]
  refine List.flatMap_congr fun s hs => ?_
  cases s with
  | code code => rfl
  | literal literal =>
    rw [Segment.words, List.flatMap_singleton, substituteWord, ofLabel?_eq_none_of_literal hs]
    rfl

end Spreadsheet.Formula
