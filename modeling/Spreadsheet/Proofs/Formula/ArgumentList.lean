import Spreadsheet.Proofs.Formula.CallCoverage
import Spreadsheet.Proofs.Formula.Enclosure

/-!
# Arguments joined and split

Arguments are written one behind the other with commas between them. They are read back by cutting
the list at its separators, the commas outside quotations and parentheses.

* `splitFrom_eq_textsBetween`, `separators_eq`: a list is cut exactly at its separators.
* `isPieceFrom` tells the texts that are never cut and leave nothing open.
  `splitFrom_intercalate`: they are read back from the text that joins them. `exists_pieces`: an
  accepted list is cut into such texts.
* `isArgument_iff`: without blanks at their ends they are the arguments, told by counting quotation
  marks and parentheses (`IsArgument`).
* `splitArguments_joined`: splitting undoes joining, and an accepted list is split into arguments.
-/

namespace Spreadsheet.Formula

open Text

variable {n : Nesting} {c : Char} {t u l r x text rest : List Char}
  {arguments texts : List (List Char)}

/-! ## Reading on -/

namespace Nesting

/-- The position after a text. -/
def afterAll (n : Nesting) (text : List Char) : Nesting :=
  text.foldl after n

@[simp] theorem afterAll_nil : n.afterAll [] = n := rfl

@[simp] theorem afterAll_cons : n.afterAll (c :: text) = (n.after c).afterAll text := rfl

theorem isTop_iff : n.isTop = true ↔ n = {} := by
  obtain ⟨depth, quoted⟩ := n
  simp [isTop, and_comm]

/-- Only quotation marks and parentheses change the position. -/
theorem after_eq_self (hc : c ≠ '"' ∧ c ≠ '(' ∧ c ≠ ')') : n.after c = n := by
  simp [after, hc]

theorem quoted_afterAll (n : Nesting) (u : List Char) :
    (n.afterAll u).quoted = u.foldl quotedAfter n.quoted := by
  induction u generalizing n with
  | nil => rfl
  | cons c u ih => rw [afterAll_cons, ih, quoted_after_eq, List.foldl_cons]

theorem quoted_afterAll_iff : (afterAll {} u).quoted = false ↔ Even (u.count '"') := by
  rw [quoted_afterAll, foldl_quotedAfter]
  simp

/-- The depth counts parentheses as long as each one that is closed has been opened. -/
theorem depth_afterAll (h : ∀ v, v <+: u → 0 ≤ n.depth + balance (unquotedFrom n.quoted v)) :
    ((n.afterAll u).depth : Int) = n.depth + balance (unquotedFrom n.quoted u) := by
  induction u generalizing n with
  | nil => simp [unquotedFrom, outside]
  | cons c u ih =>
    have hclose : n.closesNothing c = false := closesNothing_eq_false (h [c] ⟨u, rfl⟩)
    rw [afterAll_cons, depth_add_balance hclose, ih]
    intro v hv
    rw [← depth_add_balance hclose]
    exact h (c :: v) (List.cons_prefix_cons.2 ⟨rfl, hv⟩)

end Nesting

/-! ## Separators -/

/-- The end of a text lies outside quotations and parentheses. -/
def EndsOutside (text : List Char) : Prop :=
  Even (text.count '"') ∧ balance (unquotedFrom false text) = 0

instance : Decidable (EndsOutside text) :=
  inferInstanceAs (Decidable (_ ∧ _))

/-- The positions of the commas outside quotations and parentheses. -/
def separators (text : List Char) : List Nat :=
  (List.range text.length).filter fun i => text[i]? = some ',' ∧ EndsOutside (text.take i)

/-- The texts between consecutive ones of the given positions, together with the text in front of
the first position and the text behind the last one. -/
def textsBetween (text : List Char) (positions : List Nat) : List (List Char) :=
  List.zipWith (fun first last => text.extract first last) (0 :: positions.map (· + 1))
    (positions ++ [text.length])

/-- The positions of the commas that find a reader at the top. -/
def separatorsFrom (n : Nesting) (text : List Char) : List Nat :=
  (List.range text.length).filter fun i =>
    text[i]? = some ',' ∧ (n.afterAll (text.take i)).isTop = true

theorem separatorsFrom_cons :
    separatorsFrom n (c :: text) =
      (if c = ',' ∧ n.isTop = true then [0] else []) ++
        (separatorsFrom (n.after c) text).map (· + 1) := by
  have hrest : (List.range text.length).filter ((fun i => decide ((c :: text)[i]? = some ',' ∧
      (n.afterAll ((c :: text).take i)).isTop = true)) ∘ Nat.succ) =
        separatorsFrom (n.after c) text := rfl
  rw [separatorsFrom, List.length_cons, List.range_succ_eq_map, List.filter_cons, List.filter_map,
    hrest]
  by_cases hc : c = ',' ∧ n.isTop = true <;> simp [hc]

/-- Where each parenthesis that is closed has been opened, counting tells the same commas as
reading. -/
theorem separators_eq (h : ∀ u, u <+: text → 0 ≤ balance (unquotedFrom false u)) :
    separators text = separatorsFrom {} text := by
  refine List.filter_congr fun i _ => ?_
  have hdepth := Nesting.depth_afterAll (n := {}) (u := text.take i) fun v hv => by
    simpa using h v (hv.trans (List.take_prefix i text))
  simp only [Nat.cast_zero, zero_add] at hdepth
  rw [decide_eq_decide, EndsOutside, ← Nesting.quoted_afterAll_iff, Nesting.isTop,
    Bool.and_eq_true, Bool.not_eq_true', beq_iff_eq]
  refine and_congr_right fun _ => and_congr_right fun _ => ?_
  omega

/-- Behind a first character all positions are one higher. -/
theorem zipWith_extract_cons (c : Char) (text : List Char) (firsts lasts : List Nat) :
    List.zipWith (fun first last => (c :: text).extract first last) (firsts.map (· + 1))
        (lasts.map (· + 1)) =
      List.zipWith (fun first last => text.extract first last) firsts lasts := by
  simp [List.zipWith_map, List.extract_eq_take_drop]

theorem map_succ_concat_length (c : Char) (text : List Char) (positions : List Nat) :
    positions.map (· + 1) ++ [(c :: text).length] = (positions ++ [text.length]).map (· + 1) := by
  simp

theorem textsBetween_cons_zero (c : Char) (text : List Char) (positions : List Nat) :
    textsBetween (c :: text) (0 :: positions.map (· + 1)) = [] :: textsBetween text positions := by
  rw [textsBetween, List.cons_append, List.zipWith_cons_cons, map_succ_concat_length,
    zipWith_extract_cons, List.extract_eq_take_drop, Nat.sub_self, List.take_zero]
  rfl

theorem textsBetween_cons_map (c : Char) (text : List Char) (positions : List Nat) :
    textsBetween (c :: text) (positions.map (· + 1)) =
      (textsBetween text positions).modifyHead (c :: ·) := by
  obtain ⟨last, lasts, hlasts⟩ : ∃ last lasts, positions ++ [text.length] = last :: lasts :=
    List.exists_cons_of_ne_nil (by simp)
  rw [textsBetween, textsBetween, map_succ_concat_length, hlasts, List.map_cons,
    List.zipWith_cons_cons, zipWith_extract_cons, List.zipWith_cons_cons, List.modifyHead_cons]
  simp [List.extract_eq_take_drop]

theorem splitFrom_comma (h : n.isTop = true) :
    splitFrom n (',' :: rest) = [] :: splitFrom n rest := by
  simp [splitFrom, h]

theorem splitFrom_cons (h : ¬(c = ',' ∧ n.isTop = true)) :
    splitFrom n (c :: rest) = (splitFrom (n.after c) rest).modifyHead (c :: ·) := by
  rw [splitFrom, if_neg (by simpa using h)]
  split
  · rename_i hnil
    have hflat := flatMap_splitFrom (n.after c) rest
    rw [hnil] at hflat
    cases hflat
  · rename_i piece pieces hpieces
    rw [hpieces, List.modifyHead_cons]

/-- A text is cut where a comma finds the reader at the top. -/
theorem splitFrom_eq_textsBetween (n : Nesting) (text : List Char) :
    splitFrom n text = textsBetween text (separatorsFrom n text) := by
  induction text generalizing n with
  | nil => rfl
  | cons c text ih =>
    rw [separatorsFrom_cons]
    by_cases hcut : c = ',' ∧ n.isTop = true
    · obtain ⟨rfl, htop⟩ := hcut
      rw [if_pos ⟨rfl, htop⟩, Nesting.after_eq_self (by decide), List.singleton_append,
        textsBetween_cons_zero, ← ih, splitFrom_comma htop]
    · rw [if_neg hcut, List.nil_append, textsBetween_cons_map, ← ih, splitFrom_cons hcut]

/-- An accepted list is cut at its separators. -/
theorem splitFrom_of_isBalanced (h : isBalanced text = true) :
    splitFrom {} text = textsBetween text (separators text) := by
  rw [separators_eq (isBalanced_iff.1 h).1, splitFrom_eq_textsBetween]

/-! ## Pieces -/

/-- Whether a text, read from a position on, closes all that is open and nothing else, and no comma
finds the reader at the top. -/
def isPieceFrom (n : Nesting) : List Char → Bool
  | [] => n == {}
  | c :: rest => !n.closesNothing c && !(c == ',' && n.isTop) && isPieceFrom (n.after c) rest

theorem isPieceFrom_cons :
    isPieceFrom n (c :: rest) = true ↔
      n.closesNothing c = false ∧ ¬(c = ',' ∧ n.isTop = true) ∧
        isPieceFrom (n.after c) rest = true := by
  simp [isPieceFrom, and_assoc, imp_iff_not_or]

theorem isPieceFrom_iff :
    isPieceFrom n t = true ↔
      isBalancedFrom n t = true ∧ (n.afterAll t).quoted = false ∧ separatorsFrom n t = [] := by
  induction t generalizing n with
  | nil =>
    obtain ⟨depth, quoted⟩ := n
    simp [isPieceFrom, isBalancedFrom, separatorsFrom]
  | cons c t ih =>
    rw [isPieceFrom_cons, ih, isBalancedFrom, separatorsFrom_cons, Nesting.afterAll_cons]
    by_cases hcut : c = ',' ∧ n.isTop = true <;> simp [hcut, and_assoc]

/-- A piece is not cut, and what follows it is read from the top. -/
theorem splitFrom_append (h : isPieceFrom n u = true) (v : List Char) :
    splitFrom n (u ++ v) = (splitFrom {} v).modifyHead (u ++ ·) := by
  induction u generalizing n with
  | nil =>
    obtain rfl : n = {} := by simpa [isPieceFrom] using h
    exact (congrFun List.modifyHead_id _).symm
  | cons c u ih =>
    obtain ⟨-, hcut, hu⟩ := isPieceFrom_cons.1 h
    rw [List.cons_append, splitFrom_cons hcut, ih hu, List.modifyHead_modifyHead]
    rfl

/-- Pieces are read back from the text that joins them. -/
theorem splitFrom_intercalate (h : ∀ t ∈ texts, isPieceFrom {} t = true) (hne : texts ≠ []) :
    splitFrom {} ([','].intercalate texts) = texts := by
  induction texts with
  | nil => exact absurd rfl hne
  | cons t texts ih =>
    obtain ⟨ht, htexts⟩ := List.forall_mem_cons.1 h
    by_cases hrest : texts = []
    · rw [hrest, List.intercalate_singleton, ← List.append_nil t, splitFrom_append ht]
      rfl
    · rw [List.intercalate_cons_of_ne_nil hrest, List.append_assoc, splitFrom_append ht,
        List.singleton_append, splitFrom_comma rfl, ih htexts hrest, List.modifyHead_cons,
        List.append_nil]

/-- An accepted text is cut into pieces, the first of which starts where the reader is. -/
theorem exists_pieces (hbalanced : isBalancedFrom n text = true)
    (hquoted : (n.afterAll text).quoted = false) :
    ∃ t pieces, splitFrom n text = t :: pieces ∧ isPieceFrom n t = true ∧
      ∀ u ∈ pieces, isPieceFrom {} u = true := by
  induction text generalizing n with
  | nil =>
    refine ⟨[], [], rfl, ?_, by simp⟩
    exact isPieceFrom_iff.2 ⟨hbalanced, hquoted, rfl⟩
  | cons c text ih =>
    rw [isBalancedFrom, Bool.and_eq_true, Bool.not_eq_true'] at hbalanced
    obtain ⟨t, pieces, hsplit, ht, hpieces⟩ := ih hbalanced.2 hquoted
    by_cases hcut : c = ',' ∧ n.isTop = true
    · -- the empty piece ends here, at the top, where the next one starts
      obtain ⟨rfl, htop⟩ := hcut
      obtain rfl := Nesting.isTop_iff.1 htop
      refine ⟨[], t :: pieces, ?_, rfl, List.forall_mem_cons.2 ⟨ht, hpieces⟩⟩
      rw [splitFrom_comma htop]
      exact congrArg _ hsplit
    · refine ⟨c :: t, pieces, ?_, isPieceFrom_cons.2 ⟨hbalanced.1, hcut, ht⟩, hpieces⟩
      rw [splitFrom_cons hcut, hsplit, List.modifyHead_cons]

/-! ## Blanks around a text -/

/-- A text with blanks around it. -/
def IsPadded (padded text : List Char) : Prop :=
  ∃ l r, padded = l ++ text ++ r ∧ (∀ c ∈ l, isBlank c = true) ∧ ∀ c ∈ r, isBlank c = true

theorem IsPadded.refl (text : List Char) : IsPadded text text :=
  ⟨[], [], by simp, by simp, by simp⟩

theorem isPadded_trim (text : List Char) : IsPadded text (trim text) :=
  exists_trim text

theorem isPieceFrom_blanks_append (hl : ∀ c ∈ l, isBlank c = true) :
    isPieceFrom n (l ++ t) = isPieceFrom n t := by
  induction l with
  | nil => rfl
  | cons c l ih =>
    obtain ⟨hc, hl⟩ := List.forall_mem_cons.1 hl
    have hne {d : Char} (hd : isBlank d = false) : c ≠ d := ne_of_isBlank hc hd
    have hafter : n.after c = n :=
      Nesting.after_eq_self ⟨hne (by decide), hne (by decide), hne (by decide)⟩
    have hclose : n.closesNothing c = false := by
      simp [Nesting.closesNothing, hne (d := ')') (by decide)]
    rw [List.cons_append, isPieceFrom, hafter, hclose, ih hl]
    simp [hne (d := ',') (by decide)]

theorem isPieceFrom_append_blanks (hr : ∀ c ∈ r, isBlank c = true) :
    isPieceFrom n (t ++ r) = isPieceFrom n t := by
  induction t generalizing n with
  | nil => simpa using isPieceFrom_blanks_append (n := n) (t := []) hr
  | cons c t ih => rw [List.cons_append, isPieceFrom, ih, isPieceFrom]

/-- Blanks around a text do not matter for whether it is a piece. -/
theorem IsPadded.isPieceFrom_eq (h : IsPadded x t) : isPieceFrom n x = isPieceFrom n t := by
  obtain ⟨l, r, rfl, hl, hr⟩ := h
  rw [isPieceFrom_append_blanks hr, isPieceFrom_blanks_append hl]

/-- No blanks stand at the ends of a text. -/
structure IsTrimmed (text : List Char) : Prop where
  head : ∀ c ∈ text.head?, isBlank c = false
  last : ∀ c ∈ text.getLast?, isBlank c = false

theorem isTrimmed_iff :
    IsTrimmed t ↔ t.head?.any isBlank = false ∧ t.getLast?.any isBlank = false := by
  have hany (o : Option Char) : o.any isBlank = false ↔ ∀ c ∈ o, isBlank c = false := by
    cases o <;> simp
  rw [hany, hany]
  exact ⟨fun h => ⟨h.head, h.last⟩, fun h => ⟨h.1, h.2⟩⟩

-- the fields themselves could be decided by going through all characters, which takes too long
instance : Decidable (IsTrimmed t) :=
  decidable_of_iff _ isTrimmed_iff.symm

theorem dropWhile_isBlank_append (hl : ∀ c ∈ l, isBlank c = true)
    (ht : ∀ c ∈ t.head?, isBlank c = false) : (l ++ t).dropWhile isBlank = t := by
  rw [List.dropWhile_append_of_pos hl]
  cases t with
  | nil => rfl
  | cons c t => rw [List.dropWhile_cons_of_neg (by simp [ht c rfl])]

/-- Trimming takes away the blanks around a text and nothing else. -/
theorem IsTrimmed.trim_eq (ht : IsTrimmed t) (h : IsPadded x t) : trim x = t := by
  obtain ⟨l, r, rfl, hl, hr⟩ := h
  have hend : trimEnd (t ++ r) = t := by
    rw [trimEnd, List.reverse_append,
      dropWhile_isBlank_append (by simpa using hr) (by simpa using ht.last), List.reverse_reverse]
  cases t with
  | nil =>
    -- without a text the blanks behind it are taken away at the start as well
    have hblank : ∀ c ∈ l ++ r, isBlank c = true := List.forall_mem_append.2 ⟨hl, hr⟩
    have hstart := dropWhile_isBlank_append (t := []) hblank (by simp)
    rw [List.append_nil] at hstart ⊢
    rw [trim, trimStart, hstart]
    rfl
  | cons c t =>
    rw [trim, trimStart, List.append_assoc, dropWhile_isBlank_append hl (by simpa using ht.head),
      hend]

theorem trimEnd_isPrefix (text : List Char) : trimEnd text <+: text := by
  rw [← List.reverse_suffix, trimEnd, List.reverse_reverse]
  exact List.dropWhile_suffix isBlank

theorem isTrimmed_trim (text : List Char) : IsTrimmed (trim text) := by
  have hhead {u : List Char} {c : Char} (hc : (u.dropWhile isBlank).head? = some c) :
      isBlank c = false := by
    have hnot := List.head?_dropWhile_not isBlank u
    rw [hc] at hnot
    simpa using hnot
  refine ⟨fun c hc => ?_, fun c hc => ?_⟩
  · obtain ⟨v, hv⟩ := trimEnd_isPrefix (trimStart text)
    refine hhead (u := text) ?_
    rw [← trimStart, ← hv, List.head?_append, ← trim, hc]
    rfl
  · rw [trim, trimEnd, List.getLast?_reverse] at hc
    exact hhead hc

/-! ## Arguments -/

/-- An argument has no blanks at its ends and an even number of quotation marks. Outside quotations
its parentheses belong together, and there is no comma outside quotations and parentheses. -/
structure IsArgument (t : List Char) : Prop where
  trimmed : IsTrimmed t
  even_marks : Even (t.count '"')
  closes_opened : ∀ u, u <+: t → 0 ≤ balance (unquotedFrom false u)
  balanced : balance (unquotedFrom false t) = 0
  no_separator : separators t = []

/-- Arguments are the pieces without blanks at their ends. -/
theorem isArgument_iff : IsArgument t ↔ IsTrimmed t ∧ isPieceFrom {} t = true := by
  have hpiece : isPieceFrom {} t = true ↔
      ((∀ u, u <+: t → 0 ≤ balance (unquotedFrom false u)) ∧
          balance (unquotedFrom false t) = 0) ∧
        Even (t.count '"') ∧ separatorsFrom {} t = [] := by
    rw [isPieceFrom_iff, ← isBalanced, isBalanced_iff, Nesting.quoted_afterAll_iff]
  rw [hpiece]
  constructor
  · intro h
    refine ⟨h.trimmed, ⟨h.closes_opened, h.balanced⟩, h.even_marks, ?_⟩
    rw [← separators_eq h.closes_opened, h.no_separator]
  · rintro ⟨htrimmed, ⟨hclose, hbalanced⟩, heven, hseparators⟩
    exact ⟨htrimmed, heven, hclose, hbalanced, (separators_eq hclose).trans hseparators⟩

instance : Decidable (IsArgument t) :=
  decidable_of_iff _ isArgument_iff.symm

theorem dropEmptyLast_concat (front : List (List Char)) (last : List Char) :
    dropEmptyLast (front ++ [last]) = if last = [] then front else front ++ [last] := by
  cases last <;> simp [dropEmptyLast]

theorem dropEmptyLast_eq_self (h : texts.getLast? ≠ some []) : dropEmptyLast texts = texts := by
  rw [dropEmptyLast]
  split
  · exact absurd ‹_› h
  · rfl

theorem dropEmptyLast_subset (texts : List (List Char)) : dropEmptyLast texts ⊆ texts := by
  rw [dropEmptyLast]
  split
  · exact List.dropLast_subset texts
  · exact List.Subset.refl texts

/-- Arguments with blanks around them are pieces, and trimming gives the arguments. -/
theorem isPieceFrom_of_padded (h : ∀ t ∈ arguments, IsArgument t)
    (hpadded : List.Forall₂ IsPadded texts arguments) :
    (∀ x ∈ texts, isPieceFrom {} x = true) ∧ texts.map trim = arguments := by
  induction hpadded with
  | nil => simp
  | cons hx _ ih =>
    obtain ⟨ht, hrest⟩ := List.forall_mem_cons.1 h
    obtain ⟨htrimmed, hpiece⟩ := isArgument_iff.1 ht
    obtain ⟨hpieces, htrim⟩ := ih hrest
    refine ⟨List.forall_mem_cons.2 ⟨hx.isPieceFrom_eq.trans hpiece, hpieces⟩, ?_⟩
    rw [List.map_cons, htrimmed.trim_eq hx, htrim]

/-- Arguments are read back from a list in which blanks may stand around them. -/
theorem splitArguments_of_padded (h : ∀ t ∈ arguments, IsArgument t)
    (hlast : arguments.getLast? ≠ some []) (hpadded : List.Forall₂ IsPadded texts arguments) :
    splitArguments ([','].intercalate texts) = arguments := by
  obtain ⟨hpieces, rfl⟩ := isPieceFrom_of_padded h hpadded
  by_cases hne : texts = []
  · rw [hne]
    rfl
  · rw [splitArguments, splitFrom_intercalate hpieces hne, dropEmptyLast_eq_self hlast]

/-- An accepted list is split into arguments. -/
theorem isArgument_of_mem_splitArguments (hbalanced : isBalanced text = true)
    (heven : Even (text.count '"')) (ht : t ∈ splitArguments text) : IsArgument t := by
  obtain ⟨first, pieces, hsplit, hfirst, hrest⟩ :=
    exists_pieces hbalanced (Nesting.quoted_afterAll_iff.2 heven)
  have hpieces : ∀ x ∈ splitFrom {} text, isPieceFrom {} x = true := by
    rw [hsplit]
    exact List.forall_mem_cons.2 ⟨hfirst, hrest⟩
  obtain ⟨x, hx, rfl⟩ := List.mem_map.1 (dropEmptyLast_subset _ ht)
  exact isArgument_iff.2 ⟨isTrimmed_trim x, (isPadded_trim x).isPieceFrom_eq ▸ hpieces x hx⟩

/-- **Splitting undoes joining.** Arguments are read back from a list in which they stand between
commas, with or without blanks around them, unless the last one is empty. The other way round, a
list whose parentheses and quotation marks belong together is split into arguments. They are the
texts between its separators without the blanks around them, apart from an empty one at the end. -/
theorem splitArguments_joined :
    (∀ arguments padded : List (List Char), (∀ t ∈ arguments, IsArgument t) →
      arguments.getLast? ≠ some [] → List.Forall₂ IsPadded padded arguments →
        splitArguments ([','].intercalate padded) = arguments) ∧
      ∀ text, isBalanced text = true → Even (text.count '"') →
        (∀ t ∈ splitArguments text, IsArgument t) ∧
          ∃ front last, (textsBetween text (separators text)).map trim = front ++ [last] ∧
            splitArguments text = if last = [] then front else front ++ [last] := by
  refine ⟨fun arguments padded h hlast hpadded => splitArguments_of_padded h hlast hpadded,
    fun text hbalanced heven => ⟨fun t => isArgument_of_mem_splitArguments hbalanced heven, ?_⟩⟩
  have hne : (textsBetween text (separators text)).map trim ≠ [] := by
    simp [textsBetween]
  obtain ⟨front, last, hlast⟩ := (List.eq_nil_or_concat _).resolve_left hne
  rw [List.concat_eq_append] at hlast
  rw [splitArguments, splitFrom_of_isBalanced hbalanced, hlast]
  exact ⟨front, last, rfl, dropEmptyLast_concat front last⟩

/-- A nested call, an empty argument and a quoted comma, with blanks around two of them; and a list
that ends with a comma. -/
theorem splitArguments_joined_nested :
    ((∀ t ∈ ["MAX(B1,\"(,\")".toList, [], "\"é, ü\"".toList], IsArgument t) ∧
      List.Forall₂ IsPadded ["MAX(B1,\"(,\")\t".toList, "  ".toList, "\"é, ü\"".toList]
        ["MAX(B1,\"(,\")".toList, [], "\"é, ü\"".toList] ∧
      splitArguments "MAX(B1,\"(,\")\t,  ,\"é, ü\"".toList =
        ["MAX(B1,\"(,\")".toList, [], "\"é, ü\"".toList]) ∧
    isBalanced "1,,MAX( \")\", 2) , ".toList = true ∧
      Even ("1,,MAX( \")\", 2) , ".toList.count '"') ∧
      separators "1,,MAX( \")\", 2) , ".toList = [1, 2, 16] ∧
      (∀ t ∈ splitArguments "1,,MAX( \")\", 2) , ".toList, IsArgument t) ∧
      ∃ front last, (textsBetween "1,,MAX( \")\", 2) , ".toList [1, 2, 16]).map trim =
          front ++ [last] ∧
        splitArguments "1,,MAX( \")\", 2) , ".toList =
          if last = [] then front else front ++ [last] := by
  have harguments : ∀ t ∈ ["MAX(B1,\"(,\")".toList, [], "\"é, ü\"".toList], IsArgument t := by
    decide +kernel
  have htab : ∀ c ∈ "\t".toList, isBlank c = true := List.all_eq_true.1 (by decide +kernel)
  have hspaces : ∀ c ∈ "  ".toList, isBlank c = true := List.all_eq_true.1 (by decide +kernel)
  have hpadded : List.Forall₂ IsPadded
      ["MAX(B1,\"(,\")\t".toList, "  ".toList, "\"é, ü\"".toList]
      ["MAX(B1,\"(,\")".toList, [], "\"é, ü\"".toList] :=
    .cons ⟨[], "\t".toList, by decide +kernel, List.forall_mem_nil _, htab⟩
      (.cons ⟨"  ".toList, [], by decide +kernel, hspaces, List.forall_mem_nil _⟩
        (.cons (.refl _) .nil))
  have hjoined := splitArguments_joined.1 _ _ harguments (by decide +kernel) hpadded
  have htext : [','].intercalate
      ["MAX(B1,\"(,\")\t".toList, "  ".toList, "\"é, ü\"".toList] =
        "MAX(B1,\"(,\")\t,  ,\"é, ü\"".toList := by decide +kernel
  rw [htext] at hjoined
  have hbalanced : isBalanced "1,,MAX( \")\", 2) , ".toList = true := by decide +kernel
  have heven : Even ("1,,MAX( \")\", 2) , ".toList.count '"') := by decide +kernel
  have hseparators : separators "1,,MAX( \")\", 2) , ".toList = [1, 2, 16] := by decide +kernel
  have hsplit := splitArguments_joined.2 _ hbalanced heven
  rw [hseparators] at hsplit
  exact ⟨⟨harguments, hpadded, hjoined⟩, hbalanced, heven, hseparators, hsplit⟩

end Spreadsheet.Formula
