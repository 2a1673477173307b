import Spreadsheet.Proofs.Decimal.Numeral
import Spreadsheet.Proofs.Formula.ArgumentList
import Spreadsheet.Proofs.Formula.Words
import Spreadsheet.Proofs.Range.Enumeration

/-!
# Ranges and their cells, listed

A range among the arguments of a call stands for its cells. Every cell of a range that can be named
has a label, so the labels can be written in the place of the range.

* `splitArguments_intercalate`: arguments without quotation marks and parentheses are read back
  from the text that joins them.
* `evaluate_callText`, `mem_dependencies_callText`: what a call of such arguments comes to, and what
  it reads.
* `callText_listed`: neither changes when a range is replaced by the labels of its cells.
-/

namespace Spreadsheet

/-! ## Labels of cells in a range -/

/-- The labels of the cells of a range that can be named read back. -/
theorem Range.ofLabel?_labelChars {r : Range} {text : List Char} {a : Address}
    (h : ofText? text = some r) (ha : a ∈ r.cells) :
    Address.ofLabel? a.labelChars = some a := by
  obtain ⟨first, last, b, c, -, hb, hc, rfl⟩ := exists_of_ofText? h
  obtain ⟨⟨-, hrow⟩, -, hcolumn⟩ := contains_iff.1 (mem_cells_iff.1 ha)
  simp only [Fin.le_def, between, val_larger] at hrow hcolumn
  have hb := Address.add_one_lt_count hb
  have hc := Address.add_one_lt_count hc
  exact Address.ofLabel?_labelChars (by omega) (by omega)

theorem Range.colon_mem_of_ofText? {r : Range} {text : List Char} (h : ofText? text = some r) :
    ':' ∈ text := by
  obtain ⟨first, last, -, -, rfl, -⟩ := exists_of_ofText? h
  simp

theorem Range.expansion?_eq_some {r : Range} (h : r.cells.length ≤ 1000000) :
    r.expansion? = some r.cells := by
  rw [length_cells] at h
  exact if_pos h

namespace Formula

open Text

variable {cells : Cells} {name x : String} {arguments : List String} {a : Address} {c : Char}
  {argument text : List Char} {texts : List (List Char)}

/-! ## Texts that are not nested -/

/-- No quotation mark and no parenthesis. -/
def IsUnnested (text : List Char) : Prop :=
  ∀ c ∈ text, c ≠ '"' ∧ c ≠ '(' ∧ c ≠ ')'

theorem isBalanced_of_isUnnested (h : IsUnnested text) : isBalanced text = true := by
  unfold isBalanced
  induction text with
  | nil => rfl
  | cons c text ih =>
    obtain ⟨hc, htext⟩ := List.forall_mem_cons.1 h
    rw [isBalancedFrom, Nesting.after_eq_self hc, ih htext]
    simp [Nesting.closesNothing, hc]

/-- Without nesting and without commas a text is not cut. -/
theorem isPieceFrom_of_isUnnested (h : IsUnnested text) (hcomma : ',' ∉ text) :
    isPieceFrom {} text = true := by
  induction text with
  | nil => rfl
  | cons c text ih =>
    obtain ⟨hc, htext⟩ := List.forall_mem_cons.1 h
    obtain ⟨hne, hrest⟩ := not_or.1 (mt List.mem_cons.2 hcomma)
    rw [isPieceFrom, Nesting.after_eq_self hc, ih htext hrest]
    simp [Nesting.closesNothing, hc, Ne.symm hne]

theorem isUnnested_intercalate (h : ∀ t ∈ texts, IsUnnested t) :
    IsUnnested ([','].intercalate texts) := by
  induction texts with
  | nil => simp [IsUnnested]
  | cons t texts ih =>
    obtain ⟨ht, htexts⟩ := List.forall_mem_cons.1 h
    by_cases hne : texts = []
    · simpa [hne] using ht
    · intro c hc
      rw [List.intercalate_cons_of_ne_nil hne, List.mem_append, List.mem_append,
        List.mem_singleton] at hc
      rcases hc with (hc | rfl) | hc
      · exact ht c hc
      · decide
      · exact ih htexts c hc

/-- Arguments without nesting are read back from the text that joins them. -/
theorem splitArguments_intercalate (hunnested : ∀ t ∈ texts, IsUnnested t)
    (hcomma : ∀ t ∈ texts, ',' ∉ t) (hne : ∀ t ∈ texts, trim t ≠ []) :
    splitArguments ([','].intercalate texts) = texts.map trim := by
  have hargument : ∀ t ∈ texts, IsArgument (trim t) := by
    intro t ht
    have hpiece := isPieceFrom_of_isUnnested (hunnested t ht) (hcomma t ht)
    rw [(isPadded_trim t).isPieceFrom_eq] at hpiece
    exact isArgument_iff.2 ⟨isTrimmed_trim t, hpiece⟩
  refine splitArguments_of_padded (List.forall_mem_map.2 hargument) (fun hlast => ?_) ?_
  · obtain ⟨t, ht, htrim⟩ := List.mem_map.1 (List.mem_of_getLast? hlast)
    exact hne t ht htrim
  · exact List.forall₂_map_right_iff.2 (List.forall₂_same.2 fun t _ => isPadded_trim t)

theorem mentions_pieces_intercalate (texts : List (List Char)) :
    mentions (pieces ([','].intercalate texts)) = texts.flatMap fun t => mentions (pieces t) := by
  induction texts with
  | nil => simp
  | cons t texts ih =>
    by_cases hne : texts = []
    · simp [hne]
    · rw [List.intercalate_cons_of_ne_nil hne, List.append_assoc, List.singleton_append,
        mentions_pieces_append (by decide) (by decide), ih, List.flatMap_cons]

/-! ## Plain arguments -/

/-- Arguments that are a cell, an unsigned number or a range of at most a million cells. -/
inductive IsPlain (argument : List Char) : Prop
  | cell (a : Address) (h : Address.ofLabel? argument = some a)
  | number (x : Decimal.Numeral) (h : Decimal.Numeral.ofChars? argument = some x)
  | range (r : Range) (h : Range.ofText? argument = some r) (hlength : r.cells.length ≤ 1000000)

/-- The characters of labels, of numbers and of ranges. -/
def IsPlainChar (c : Char) : Prop :=
  c.isAlphanum = true ∨ c = ':' ∨ Decimal.IsNumeralChar c

theorem isRangeShaped_of_ofText? {r : Range} (h : Range.ofText? text = some r) :
    Range.isRangeShaped text = true := by
  obtain ⟨first, last, b, c, rfl, hb, hc, -⟩ := Range.exists_of_ofText? h
  rw [Range.isRangeShaped, Range.splitColon_append (Range.ne_colon_of_ofLabel? hb)]
  simp [Address.isLabelShaped_of_ofLabel? hb, Address.isLabelShaped_of_ofLabel? hc]

theorem rangeArgument?_eq (argument : List Char) :
    rangeArgument? argument = Range.ofText? argument := by
  rw [rangeArgument?]
  split
  · rfl
  · rename_i hshape
    cases h : Range.ofText? argument with
    | none => rfl
    | some r => exact absurd (isRangeShaped_of_ofText? h) hshape

theorem IsPlain.isPlainChar (h : IsPlain argument) (hc : c ∈ argument) : IsPlainChar c := by
  cases h with
  | cell a h => exact .inl (Address.isAlphanum_of_mem (Address.isLabelShaped_of_ofLabel? h) hc)
  | number x h => exact .inr (.inr (Decimal.Numeral.isNumeralChar_of_mem h hc))
  | range r h =>
    exact (Range.isAlphanum_or_of_mem (isRangeShaped_of_ofText? h) hc).imp_right .inl

theorem IsPlain.ne_nil (h : IsPlain argument) : argument ≠ [] := by
  rintro rfl
  cases h with
  | cell a h => cases h
  | number x h => cases h
  | range r h => cases h

/-- A plain argument that is a range has at most a million cells. -/
theorem IsPlain.length_le {r : Range} (h : IsPlain argument)
    (hr : Range.ofText? argument = some r) : r.cells.length ≤ 1000000 := by
  have hcolon := Range.colon_mem_of_ofText? hr
  cases h with
  | cell a h => exact absurd (Range.ne_colon_of_ofLabel? h _ hcolon) (by decide)
  | number x h =>
    have hchar := Decimal.Numeral.isNumeralChar_of_mem h hcolon
    exact absurd hchar (by unfold Decimal.IsNumeralChar; decide)
  | range s h hlength =>
    obtain rfl : s = r := Option.some.inj (h.symm.trans hr)
    exact hlength

theorem IsPlain.isOversized (h : IsPlain argument) : isOversized argument = false := by
  rw [Formula.isOversized, rangeArgument?_eq]
  split
  · rename_i r hr
    rw [Range.expansion?_eq_some (h.length_le hr)]
    rfl
  · rfl

/-! ## Calls of plain arguments -/

/-- The text of a call. -/
def callText (name : String) (arguments : List String) : String :=
  "=" ++ name ++ "(" ++ ",".intercalate arguments ++ ")"

/-- The name of a function is made of letters and underscores. -/
structure IsName (name : String) : Prop where
  ne_empty : name ≠ ""
  chars : ∀ c ∈ name.toList, ('A' ≤ c ∧ c ≤ 'Z') ∨ c = '_'

/-- A list of plain arguments, each with or without blanks around it. -/
def ArePlain (arguments : List String) : Prop :=
  ∀ x ∈ arguments, IsPlain (trim x.toList)

theorem IsName.isNameChar (h : IsName name) : ∀ c ∈ name.toList, isNameChar c = true :=
  fun c hc => isNameChar_iff.2 (h.chars c hc)

theorem IsName.toList_ne_nil (h : IsName name) : name.toList ≠ [] :=
  fun hnil => h.ne_empty (String.toList_eq_nil_iff.1 hnil)

theorem toList_callText (name : String) (arguments : List String) :
    (callText name arguments).toList =
      '=' :: name.toList ++ '(' :: [','].intercalate (arguments.map String.toList) ++ [')'] := by
  simp [callText]

/-- The characters of a plain argument and of the blanks around it. -/
theorem ArePlain.isPlainChar_or_isBlank (h : ArePlain arguments) (hx : x ∈ arguments)
    (hc : c ∈ x.toList) : IsPlainChar c ∨ isBlank c = true := by
  obtain ⟨l, r, htrim, hl, hr⟩ := exists_trim x.toList
  rw [htrim, List.mem_append, List.mem_append] at hc
  rcases hc with (hc | hc) | hc
  · exact .inr (hl c hc)
  · exact .inl ((h x hx).isPlainChar hc)
  · exact .inr (hr c hc)

theorem ne_of_isPlainChar_or_isBlank (h : IsPlainChar c ∨ isBlank c = true) :
    (c ≠ '"' ∧ c ≠ '(' ∧ c ≠ ')') ∧ c ≠ ',' := by
  refine ⟨⟨?_, ?_, ?_⟩, ?_⟩ <;>
  · rintro rfl
    revert h
    unfold IsPlainChar Decimal.IsNumeralChar
    decide

theorem ArePlain.isUnnested (h : ArePlain arguments) :
    ∀ t ∈ arguments.map String.toList, IsUnnested t := by
  simp only [List.forall_mem_map]
  exact fun x hx c hc => (ne_of_isPlainChar_or_isBlank (h.isPlainChar_or_isBlank hx hc)).1

theorem ArePlain.comma_notMem (h : ArePlain arguments) :
    ∀ t ∈ arguments.map String.toList, ',' ∉ t := by
  simp only [List.forall_mem_map]
  exact fun x hx hc => (ne_of_isPlainChar_or_isBlank (h.isPlainChar_or_isBlank hx hc)).2 rfl

theorem ofText_callText (hname : IsName name) (h : ArePlain arguments) :
    Entry.ofText (callText name arguments) =
      .call name (arguments.map fun x => String.ofList (trim x.toList)) := by
  refine Entry.ofText_eq_call_iff.2 ⟨_, _, toList_callText name arguments, hname.toList_ne_nil,
    hname.isNameChar, isBalanced_of_isUnnested (isUnnested_intercalate h.isUnnested), by simp, ?_⟩
  rw [splitArguments_intercalate h.isUnnested h.comma_notMem
    (List.forall_mem_map.2 fun x hx => (h x hx).ne_nil)]
  simp

/-- **What a call of plain arguments comes to**: the function is applied to the values of the
arguments in a row. -/
theorem evaluate_callText (hname : IsName name) (h : ArePlain arguments) (registry : Registry)
    (cells : Cells) :
    evaluate registry cells (callText name arguments) =
      (registry.get? name).elim (.error (.unknownFunction name)) fun operation =>
        operation (arguments.flatMap fun x => argumentValues cells (trim x.toList)) := by
  have hsmall : ∀ x ∈ arguments.map fun x => String.ofList (trim x.toList),
      isOversized x.toList = false := by
    simp only [List.forall_mem_map, String.toList_ofList]
    exact fun x hx => (h x hx).isOversized
  rw [evaluate, ofText_callText hname h, Entry.value, callValue, resolveAll_eq_ok cells hsmall]
  simp only [List.flatMap_map, String.toList_ofList]
  cases registry.get? name <;> rfl

/-- A name has no digits, so it is no label. -/
theorem IsName.mentions_eq_nil (h : IsName name) : mentions (pieces name.toList) = [] := by
  have hchar : ∀ c ∈ name.toList, c.isUpper = true ∨ c = '_' := fun c hc =>
    (h.chars c hc).imp_left Column.isUpper_iff.2
  have hword : ∀ c ∈ name.toList, isWordChar c = true := by
    intro c hc
    rcases hchar c hc with hupper | rfl
    · exact isWordChar_of_isAlphanum (isAlphanum_iff.2 (.inl (.inl hupper)))
    · decide
  have hshape : Address.isLabelShaped name.toList = false := by
    by_contra hlabel
    simp only [Address.isLabelShaped, Bool.not_eq_false, Bool.and_eq_true, Bool.not_eq_true',
      List.isEmpty_eq_false_iff, List.all_eq_true] at hlabel
    obtain ⟨d, hd⟩ := List.exists_mem_of_ne_nil _ hlabel.1.2
    have hdigit := hlabel.2 d hd
    rcases hchar d ((List.dropWhile_sublist _).subset hd) with hupper | rfl
    · rw [Address.not_isUpper_of_isDigit hdigit] at hupper
      cases hupper
    · exact absurd hdigit (by decide)
  rw [pieces_word h.toList_ne_nil hword, mentions_cons_of_not hshape, mentions_nil]

/-- Blanks around an argument change nothing of what it mentions. -/
theorem mentions_pieces_trim (text : List Char) :
    mentions (pieces (trim text)) = mentions (pieces text) := by
  obtain ⟨l, r, htrim, hl, hr⟩ := exists_trim text
  conv_rhs => rw [htrim, List.append_assoc, mentions_pieces_blanks hl]
  cases r with
  | nil => rw [List.append_nil]
  | cons c r =>
    obtain ⟨hc, hr⟩ := List.forall_mem_cons.1 hr
    have hblanks : mentions (pieces (r ++ [])) = [] := by rw [mentions_pieces_blanks hr]; simp
    obtain ⟨hword, hcolon, -⟩ := isSeparator_of_isBlank hc
    rw [mentions_pieces_append hword hcolon, ← List.append_nil r, hblanks, List.append_nil]

/-- **What a call of plain arguments reads**: the cells that its arguments mention. -/
theorem mem_dependencies_callText (hname : IsName name) (h : ArePlain arguments) :
    a ∈ dependencies (callText name arguments) ↔
      ∃ x ∈ arguments, ∃ m ∈ mentions (pieces (trim x.toList)), a ∈ m.cells := by
  have hcode : ∀ c ∈ (callText name arguments).toList, c ≠ '"' := by
    intro c hc
    rw [toList_callText, List.mem_append, List.mem_append, List.mem_cons, List.mem_cons,
      List.mem_singleton] at hc
    rcases hc with ((rfl | hc) | rfl | hc) | rfl
    · decide
    · exact (ne_of_isNameChar (hname.isNameChar c hc)).1
    · decide
    · exact (isUnnested_intercalate h.isUnnested c hc).1
    · decide
  rw [mem_dependencies_iff, codeMentions_of_code hcode, toList_callText, List.append_assoc,
    List.cons_append, List.cons_append, mentions_pieces_cons (by decide),
    mentions_pieces_append (by decide) (by decide), hname.mentions_eq_nil, List.nil_append,
    mentions_pieces_append (by decide) (by decide), mentions_pieces_intercalate,
    pieces_nil, mentions_nil, List.append_nil, List.flatMap_map]
  simp only [List.mem_flatMap, mentions_pieces_trim]
  constructor
  · rintro ⟨m, ⟨x, hx, hm⟩, ha⟩
    exact ⟨x, hx, m, hm, ha⟩
  · rintro ⟨x, hx, m, hm, ha⟩
    exact ⟨m, ⟨x, hx, hm⟩, ha⟩

/-! ## Listing the cells of ranges -/

/-- An argument with the labels of its cells in the place of a range. -/
def listed (argument : String) : List String :=
  match Range.ofText? (trim argument.toList) with
  | some r => r.cells.map Address.label
  | none => [argument]

/-- There are no blanks around a label. -/
theorem trim_of_ofLabel? (h : Address.ofLabel? text = some a) : trim text = text := by
  have hblank : ∀ c ∈ text, isBlank c = false := by
    intro c hc
    by_contra hblank
    have hword := isWordChar_of_isBlank (Bool.not_eq_false _ ▸ hblank)
    rw [isWordChar_of_label h hc] at hword
    cases hword
  have htrimmed : IsTrimmed text :=
    ⟨fun c hc => hblank c (List.mem_of_mem_head? hc), fun c hc =>
      hblank c (List.mem_of_getLast? hc)⟩
  exact htrimmed.trim_eq (.refl text)

/-- The labels that are listed for a range read back. -/
theorem ofLabel?_trim_label {r : Range} (hr : Range.ofText? text = some r) (ha : a ∈ r.cells) :
    Address.ofLabel? (trim a.label.toList) = some a := by
  have hlabel := Range.ofLabel?_labelChars hr ha
  rw [Address.label, String.toList_ofList, trim_of_ofLabel? hlabel, hlabel]

/-- What is listed is the argument itself, or the labels of the cells of a range. -/
theorem listed_cases (x : String) :
    listed x = [x] ∨ ∃ r, Range.ofText? (trim x.toList) = some r ∧
      listed x = r.cells.map Address.label := by
  cases h : Range.ofText? (trim x.toList) with
  | none => exact .inl (by rw [listed, h])
  | some r => exact .inr ⟨r, rfl, by rw [listed, h]⟩

theorem ArePlain.flatMap_listed (h : ArePlain arguments) : ArePlain (arguments.flatMap listed) := by
  intro y hy
  obtain ⟨x, hx, hy⟩ := List.mem_flatMap.1 hy
  rcases listed_cases x with hlisted | ⟨r, hr, hlisted⟩ <;> rw [hlisted] at hy
  · rw [List.mem_singleton.1 hy]
    exact h x hx
  · obtain ⟨a, ha, rfl⟩ := List.mem_map.1 hy
    exact .cell a (ofLabel?_trim_label hr ha)

/-- A label has the value of its cell. -/
theorem argumentValues_of_ofLabel? (h : Address.ofLabel? text = some a) :
    argumentValues cells text = [cells a] := by
  have hrange : Range.ofText? text = none := by
    by_contra hrange
    obtain ⟨r, hr⟩ := Option.ne_none_iff_exists'.1 hrange
    exact absurd (Range.ne_colon_of_ofLabel? h _ (Range.colon_mem_of_ofText? hr)) (by decide)
  rw [argumentValues, rangeArgument?_eq, hrange]
  simp [resolveSingle, h]

/-- The values of a range are those of the labels of its cells. -/
theorem flatMap_listed_argumentValues (cells : Cells) (h : IsPlain (trim x.toList)) :
    ((listed x).flatMap fun y => argumentValues cells (trim y.toList)) =
      argumentValues cells (trim x.toList) := by
  rcases listed_cases x with hlisted | ⟨r, hr, hlisted⟩ <;> rw [hlisted]
  · simp
  · have hlabel : ∀ a ∈ r.cells, argumentValues cells (trim a.label.toList) = [cells a] :=
      fun a ha => argumentValues_of_ofLabel? (ofLabel?_trim_label hr ha)
    rw [List.flatMap_map, List.flatMap_congr hlabel, ← List.map_eq_flatMap, argumentValues,
      rangeArgument?_eq, hr]
    simp [Range.expansion?_eq_some (h.length_le hr)]

/-- A range mentions the cells that the labels of its cells mention. -/
theorem exists_mem_listed_iff (h : IsPlain (trim x.toList)) :
    (∃ y ∈ listed x, ∃ m ∈ mentions (pieces (trim y.toList)), a ∈ m.cells) ↔
      ∃ m ∈ mentions (pieces (trim x.toList)), a ∈ m.cells := by
  rcases listed_cases x with hlisted | ⟨r, hr, hlisted⟩ <;> rw [hlisted]
  · simp
  · have hlabel : ∀ b ∈ r.cells,
        (∃ m ∈ mentions (pieces (trim b.label.toList)), a ∈ m.cells) ↔ a = b := by
      intro b hb
      have hread := ofLabel?_trim_label hr hb
      rw [mentions_pieces_label (Address.isLabelShaped_of_ofLabel? hread)]
      simp [Mention.cells, hread]
    have hexpansion := Range.expansion?_eq_some (h.length_le hr)
    obtain ⟨first, last, b, c, htext, hb, hc, rfl⟩ := Range.exists_of_ofText? hr
    rw [htext, mentions_pieces_range (Address.isLabelShaped_of_ofLabel? hb)
      (Address.isLabelShaped_of_ofLabel? hc)]
    simp only [List.mem_map, exists_exists_and_eq_and, List.mem_singleton, exists_eq_left,
      Mention.cells, hb, hc, hexpansion, Option.getD_some]
    constructor
    · rintro ⟨d, hd, hm⟩
      rwa [(hlabel d hd).1 hm]
    · intro ha
      exact ⟨a, ha, (hlabel a ha).2 rfl⟩

/-- **A range is the same as its cells listed one by one.** Neither the value of a call nor the
cells that it reads change when every range among its arguments is replaced by the labels of its
cells, row by row. -/
theorem callText_listed (hname : IsName name) (h : ArePlain arguments) :
    (∀ registry cells, evaluate registry cells (callText name arguments) =
        evaluate registry cells (callText name (arguments.flatMap listed))) ∧
      ∀ a, a ∈ dependencies (callText name arguments) ↔
        a ∈ dependencies (callText name (arguments.flatMap listed)) := by
  refine ⟨fun registry cells => ?_, fun a => ?_⟩
  · rw [evaluate_callText hname h, evaluate_callText hname h.flatMap_listed, List.flatMap_assoc,
      List.flatMap_congr fun x hx => flatMap_listed_argumentValues cells (h x hx)]
  · rw [mem_dependencies_callText hname h, mem_dependencies_callText hname h.flatMap_listed]
    constructor
    · rintro ⟨x, hx, hm⟩
      obtain ⟨y, hy, hm⟩ := (exists_mem_listed_iff (h x hx)).2 hm
      exact ⟨y, List.mem_flatMap.2 ⟨x, hx, hy⟩, hm⟩
    · rintro ⟨y, hy, hm⟩
      obtain ⟨x, hx, hy⟩ := List.mem_flatMap.1 hy
      exact ⟨x, hx, (exists_mem_listed_iff (h x hx)).1 ⟨y, hy, hm⟩⟩

/-- A range that is named by its last corner first, beside a number with a blank in front of it. -/
theorem callText_listed_last_corner_first :
    callText "SUM" ["B2:A1", " 5"] = "=SUM(B2:A1, 5)" ∧
      callText "SUM" (["B2:A1", " 5"].flatMap listed) = "=SUM(A1,B1,A2,B2, 5)" ∧
      (∀ registry cells, evaluate registry cells "=SUM(B2:A1, 5)" =
        evaluate registry cells "=SUM(A1,B1,A2,B2, 5)") ∧
      ∀ a, a ∈ dependencies "=SUM(B2:A1, 5)" ↔ a ∈ dependencies "=SUM(A1,B1,A2,B2, 5)" := by
  have hrange : callText "SUM" ["B2:A1", " 5"] = "=SUM(B2:A1, 5)" := by decide +kernel
  have hlist : callText "SUM" (["B2:A1", " 5"].flatMap listed) = "=SUM(A1,B1,A2,B2, 5)" := by
    decide +kernel
  have hplain : ArePlain ["B2:A1", " 5"] := by
    refine List.forall_mem_cons.2 ⟨?_, List.forall_mem_singleton.2 ?_⟩
    · exact .range (Range.between ⟨1, 1⟩ ⟨0, 0⟩) (by decide +kernel) (by decide +kernel)
    · exact .number ⟨5, 1, 0⟩ (by decide +kernel)
  have hname : IsName "SUM" := ⟨by decide, nameChars_of_all (by decide)⟩
  have hlisted := callText_listed hname hplain
  rw [hrange, hlist] at hlisted
  exact ⟨hrange, hlist, hlisted⟩

end Formula

end Spreadsheet
