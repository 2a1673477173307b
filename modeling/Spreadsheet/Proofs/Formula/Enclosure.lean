import Mathlib.Algebra.Group.Nat.Even
import Mathlib.Data.List.Infix
import Spreadsheet.Proofs.Formula.Call
import Spreadsheet.Proofs.Formula.Position

/-!
# Parentheses around arguments

A call is meant to be recognised by its parentheses: the one behind the name is closed by the last
character, parentheses in string literals apart (`IsEnclosedCall`). Arguments are read by a simpler
rule, though, by which every quotation mark opens or closes a quotation.

* `isBalancedFrom_iff`: the arguments are accepted if no parenthesis outside quotations is closed
  without having been opened, and none stays open.
* `exists_call_iff`: which texts are calls, and that they are the enclosed ones as long as both
  rules agree on the parentheses.
* `readsParenthesesAlike_of_even`: they agree in a text without escaped quotation marks that has an
  even number of marks.
-/

namespace Spreadsheet.Formula

variable {σ : Type*} {isCode : σ → Bool} {after : σ → Char → σ} {s : σ} {c : Char}
  {text u v letters list : List Char} {n : Nesting} {name : String} {arguments : List String}

/-! ## Counting parentheses -/

/-- How many more parentheses are opened than closed. -/
def balance (text : List Char) : Int :=
  text.count '(' - text.count ')'

@[simp] theorem balance_nil : balance [] = 0 := rfl

@[simp] theorem balance_append (u v : List Char) : balance (u ++ v) = balance u + balance v := by
  simp only [balance, List.count_append]
  omega

theorem balance_of_forall_ne (htext : ∀ c ∈ text, c ≠ '(' ∧ c ≠ ')') : balance text = 0 := by
  rw [balance, List.count_eq_zero_of_not_mem fun h => (htext _ h).1 rfl,
    List.count_eq_zero_of_not_mem fun h => (htext _ h).2 rfl]
  rfl

theorem balance_singleton_of_ne (h₁ : c ≠ '(') (h₂ : c ≠ ')') : balance [c] = 0 :=
  balance_of_forall_ne (by simp [h₁, h₂])

/-! ## Readers of quotations -/

/-- The characters that a reader finds in code. The reader comes to the text in the state `s`. -/
def outside (isCode : σ → Bool) (after : σ → Char → σ) (s : σ) : List Char → List Char
  | [] => []
  | c :: rest =>
    (if isCode s && c != '"' then [c] else []) ++ outside isCode after (after s c) rest

theorem outside_append (s : σ) (u v : List Char) :
    outside isCode after s (u ++ v) =
      outside isCode after s u ++ outside isCode after (u.foldl after s) v := by
  induction u generalizing s with
  | nil => rfl
  | cons c u ih => rw [List.cons_append, outside, outside, ih, List.append_assoc, List.foldl_cons]

theorem outside_concat (s : σ) (u : List Char) (c : Char) :
    outside isCode after s (u ++ [c]) =
      outside isCode after s u ++ if isCode (u.foldl after s) && c != '"' then [c] else [] := by
  rw [outside_append, outside, outside, List.append_nil]

/-- A reader that stays in code until the next quotation mark takes a text without marks along. -/
theorem outside_of_forall_ne (hs : isCode s = true)
    (hstay : ∀ s c, c ≠ '"' → isCode s = true → after s c = s) (htext : ∀ c ∈ text, c ≠ '"') :
    outside isCode after s text = text ∧ text.foldl after s = s := by
  induction text with
  | nil => exact ⟨rfl, rfl⟩
  | cons c text ih =>
    obtain ⟨hc, htext⟩ := List.forall_mem_cons.1 htext
    obtain ⟨ih, hfold⟩ := ih htext
    rw [outside, List.foldl_cons, hstay s c hc hs, ih]
    simp [hs, hc, hfold]

/-- The characters of a text outside string literals, for a reader in a position. -/
def codeFrom : Position → List Char → List Char :=
  outside (· == .code) Position.after

/-- Whether a quotation is open behind a character, if every mark opens or closes one. -/
def quotedAfter (quoted : Bool) (c : Char) : Bool :=
  if c == '"' then !quoted else quoted

theorem Nesting.quoted_after_eq (n : Nesting) (c : Char) :
    (n.after c).quoted = quotedAfter n.quoted c := by
  simp only [after, quotedAfter]
  split_ifs <;> rfl

/-- The characters of a text outside quotations, if every mark opens or closes one. -/
def unquotedFrom : Bool → List Char → List Char :=
  outside (!·) quotedAfter

/-- The characters of a text outside its string literals. -/
def codeText (text : List Char) : List Char :=
  (codeSegments text).flatten

/-- Behind an even number of marks a text is outside quotations. -/
theorem foldl_quotedAfter (u : List Char) :
    u.foldl quotedAfter false = !decide (Even (u.count '"')) := by
  induction u using List.reverseRecOn with
  | nil => rfl
  | append_singleton u c ih =>
    rw [List.foldl_concat, ih, List.count_append]
    by_cases hc : c = '"'
    · simp [quotedAfter, hc, Nat.even_add_one, -Nat.not_even_iff_odd]
    · simp [quotedAfter, hc]

theorem unquotedFrom_append_of_forall_ne (hu : ∀ c ∈ u, c ≠ '"') (v : List Char) :
    unquotedFrom false (u ++ v) = u ++ unquotedFrom false v := by
  have hread : outside (!·) quotedAfter false u = u ∧ u.foldl quotedAfter false = false :=
    outside_of_forall_ne rfl (fun q c hc _ => by simp [quotedAfter, hc]) hu
  rw [unquotedFrom, outside_append, hread.1, hread.2]

theorem codeFrom_append (p : Position) (u v : List Char) :
    codeFrom p (u ++ v) = codeFrom p u ++ codeFrom (p.afterAll u) v :=
  outside_append p u v

theorem codeFrom_of_forall_ne (htext : ∀ c ∈ text, c ≠ '"') : codeFrom .code text = text := by
  refine (outside_of_forall_ne (by rfl) (fun p c hc hp => ?_) htext).1
  rw [eq_of_beq hp, Position.after_eq_code_iff hc]

/-- Nothing of a literal stands outside of it. -/
theorem codeFrom_literal (text : List Char) :
    codeFrom .literal text = codeFrom .code (literalSpan text).2 := by
  fun_induction literalSpan text with
  | case1 => rfl
  | case2 c rest hc => simp_all [codeFrom, outside, Position.after]
  | case3 c hc hescape => simp_all [codeFrom, outside]
  | case4 c hc hescape d after ih => simp_all [codeFrom, outside, Position.after]
  | case5 c rest hc hescape ih => simp_all [codeFrom, outside, Position.after]

theorem codeText_eq (text : List Char) : codeText text = codeFrom .code text := by
  fun_induction segments text with
  | case1 => simp [codeText, codeFrom, outside]
  | case2 c rest hc ih =>
    obtain rfl : c = '"' := by simpa using hc
    rw [codeText, codeSegments_mark, ← codeText, ih, ← codeFrom_literal]
    rfl
  | case3 c rest hc ih =>
    have hc : c ≠ '"' := by simpa using hc
    have hcode : ∀ d ∈ c :: rest.takeWhile isCodeChar, d ≠ '"' :=
      List.forall_mem_cons.2 ⟨hc, fun d hd => by
        simpa [isCodeChar] using List.all_eq_true.1 List.all_takeWhile d hd⟩
    have hsplit : c :: rest = (c :: rest.takeWhile isCodeChar) ++ rest.dropWhile isCodeChar := by
      rw [List.cons_append, List.takeWhile_append_dropWhile]
    rw [codeText, codeSegments_cons hc, List.flatten_cons, ← codeText, ih]
    conv_rhs => rw [hsplit]
    rw [codeFrom_append, codeFrom_of_forall_ne hcode, (Position.afterAll_eq_code_iff hcode).2 rfl]

/-- Without escaped marks a text is outside quotations where it is outside string literals. -/
theorem foldl_quotedAfter_iff {quoted : Bool} {p : Position} (hagree : quoted = true ↔ p ≠ .code)
    (hmark : EscapesNoMark p u) : u.foldl quotedAfter quoted = true ↔ p.afterAll u ≠ .code := by
  induction u generalizing quoted p with
  | nil => exact hagree
  | cons c u ih =>
    have hc : c = '"' → p ≠ .escaped := fun hc => hmark [] u (by simp [hc])
    have hafter := quoted_after (n := ⟨0, quoted⟩) hagree hc
    rw [Nesting.quoted_after_eq] at hafter
    rw [List.foldl_cons, Position.afterAll_cons, ih hafter hmark.tail]

/-! ## Arguments -/

/-- What a character does to the number of open parentheses. -/
theorem depth_add_balance (h : n.closesNothing c = false) (u : List Char) :
    (n.depth : Int) + balance (unquotedFrom n.quoted (c :: u)) =
      (n.after c).depth + balance (unquotedFrom (n.after c).quoted u) := by
  have hclose : c = ')' → n.quoted = false → n.depth ≠ 0 := by
    rintro rfl hquoted hdepth
    simp [Nesting.closesNothing, Nesting.isTop, hquoted, hdepth] at h
  rw [unquotedFrom, outside, balance_append, ← unquotedFrom]
  by_cases hmark : c = '"'
  · simp [quotedAfter, hmark, Nesting.after]
  · cases hquoted : n.quoted with
    | true => simp [quotedAfter, Nesting.after, hmark, hquoted]
    | false =>
      by_cases hopen : c = '('
      · simp [quotedAfter, Nesting.after, hquoted, hopen, balance]
        omega
      · by_cases hc : c = ')'
        · have := hclose hc hquoted
          simp [quotedAfter, Nesting.after, hquoted, hc, balance]
          omega
        · simp [quotedAfter, Nesting.after, hmark, hquoted, hopen, hc, balance_singleton_of_ne]

/-- A parenthesis that makes the count negative closes nothing. -/
theorem closesNothing_eq_false (h : 0 ≤ n.depth + balance (unquotedFrom n.quoted [c])) :
    n.closesNothing c = false := by
  by_contra hclose
  simp only [Nesting.closesNothing, Nesting.isTop, Bool.not_eq_false, Bool.and_eq_true,
    beq_iff_eq, Bool.not_eq_true'] at hclose
  obtain ⟨rfl, hquoted, hdepth⟩ := hclose
  simp [unquotedFrom, outside, balance, hquoted, hdepth] at h

/-- A text is accepted if no parenthesis outside quotations closes nothing and none stays open. -/
theorem isBalancedFrom_iff :
    isBalancedFrom n text = true ↔
      (∀ u, u <+: text → 0 ≤ n.depth + balance (unquotedFrom n.quoted u)) ∧
        n.depth + balance (unquotedFrom n.quoted text) = 0 := by
  induction text generalizing n with
  | nil => simp [isBalancedFrom, unquotedFrom, outside]
  | cons c text ih =>
    rw [isBalancedFrom, Bool.and_eq_true, Bool.not_eq_true', ih]
    cases hclose : n.closesNothing c with
    | true =>
      -- the first character alone closes what was never opened
      refine iff_of_false (by simp) fun h => ?_
      rw [closesNothing_eq_false (h.1 [c] ⟨text, rfl⟩)] at hclose
      cases hclose
    | false =>
      rw [← depth_add_balance hclose]
      refine ⟨fun h => ⟨fun u hu => ?_, h.2.2⟩, fun h => ⟨rfl, fun u hu => ?_, h.2⟩⟩
      · cases u with
        | nil => simp [unquotedFrom, outside]
        | cons d u =>
          obtain ⟨rfl, hrest⟩ := List.cons_prefix_cons.1 hu
          rw [depth_add_balance hclose]
          exact h.2.1 u hrest
      · rw [← depth_add_balance hclose]
        exact h.1 (c :: u) (List.cons_prefix_cons.2 ⟨rfl, hu⟩)

theorem isBalanced_iff :
    isBalanced list = true ↔
      (∀ u, u <+: list → 0 ≤ balance (unquotedFrom false u)) ∧
        balance (unquotedFrom false list) = 0 := by
  rw [isBalanced, isBalancedFrom_iff]
  simp only [Nat.cast_zero, zero_add]

/-! ## Which texts are calls -/

/-- An equals sign, a name of letters and underscores, and an opening and a closing parenthesis
around the rest. -/
structure IsCallShaped (text name list : List Char) : Prop where
  text_eq : text = '=' :: name ++ '(' :: list ++ [')']
  name_ne_nil : name ≠ []
  name_chars : ∀ c ∈ name, ('A' ≤ c ∧ c ≤ 'Z') ∨ c = '_'

/-- The parenthesis behind the name is closed by the last character, string literals apart: up to
there it stays open, and then no parenthesis is open. -/
def IsEnclosedCall (text : List Char) : Prop :=
  ∃ name list, IsCallShaped text name list ∧
    (∀ u, u <+: list → 0 < balance (codeText ('=' :: name ++ '(' :: u))) ∧
      balance (codeText text) = 0

/-- The parenthesis behind the name is the only one that is open in front of the last character, and
is not closed before, if every quotation mark opens or closes a quotation. -/
def IsQuotedCall (text : List Char) : Prop :=
  ∃ name list, IsCallShaped text name list ∧
    (∀ u, u <+: list → 0 < balance (unquotedFrom false ('=' :: name ++ '(' :: u))) ∧
      balance (unquotedFrom false ('=' :: name ++ '(' :: list)) = 1

/-- Both readings agree on the parentheses of a text. Those outside string literals are those behind
an even number of quotation marks and the one at the end. -/
def ReadsParenthesesAlike (text : List Char) : Prop :=
  ∀ i < text.length, text[i]? = some '(' ∨ text[i]? = some ')' →
    (Position.code.afterAll (text.take i) = .code ↔
      Even ((text.take i).count '"') ∨ i + 1 = text.length)

/-- In a text without escaped quotation marks and with an even number of marks, all parentheses are
read alike. -/
theorem readsParenthesesAlike_of_even (hmark : ¬['\\', '"'] <:+: text)
    (heven : Even (text.count '"')) : ReadsParenthesesAlike text := by
  intro i hi hparenthesis
  have hfront : EscapesNoMark .code (text.take i) :=
    escapesNoMark_of_not_isInfix fun h => hmark (h.trans (List.take_prefix i text).isInfix)
  have hcode : Position.code.afterAll (text.take i) = .code ↔ Even ((text.take i).count '"') := by
    have hiff : (text.take i).foldl quotedAfter false = true ↔
        Position.code.afterAll (text.take i) ≠ .code := foldl_quotedAfter_iff (by simp) hfront
    rw [foldl_quotedAfter] at hiff
    simpa using not_congr hiff.symm
  refine hcode.trans (or_iff_left_of_imp fun hlast => ?_).symm
  -- the last character is no mark
  obtain ⟨c, hc⟩ : ∃ c, text[i]? = some c := ⟨text[i], List.getElem?_eq_getElem hi⟩
  have hne : c ≠ '"' := by
    rintro rfl
    simp [hc] at hparenthesis
  have htext : text = text.take i ++ [c] := by
    rw [← Option.toList_some, ← hc, ← List.take_add_one, hlast, List.take_length]
  have hzero : [c].count '"' = 0 := List.count_eq_zero_of_not_mem (by simpa using hne.symm)
  rwa [htext, List.count_append, hzero] at heven

theorem isCallShaped_iff : IsCallShaped text letters list ↔
    text = '=' :: letters ++ '(' :: list ++ [')'] ∧ letters ≠ [] ∧
      ∀ c ∈ letters, isNameChar c = true := by
  simp only [isNameChar_iff]
  exact ⟨fun h => ⟨h.1, h.2, h.3⟩, fun h => ⟨h.1, h.2.1, h.2.2⟩⟩

theorem IsCallShaped.ne_of_mem (h : IsCallShaped text letters list) (hc : c ∈ '=' :: letters) :
    c ≠ '"' ∧ c ≠ '(' ∧ c ≠ ')' := by
  rcases List.mem_cons.1 hc with rfl | hc
  · decide
  · exact ne_of_isNameChar ((isCallShaped_iff.1 h).2.2 c hc)

/-- The name leaves one parenthesis open. -/
theorem IsCallShaped.balance_unquoted (h : IsCallShaped text letters list) (u : List Char) :
    balance (unquotedFrom false ('=' :: letters ++ '(' :: u)) =
      1 + balance (unquotedFrom false u) := by
  rw [unquotedFrom_append_of_forall_ne fun c hc => (h.ne_of_mem hc).1, balance_append,
    balance_of_forall_ne fun c hc => (h.ne_of_mem hc).2, unquotedFrom, outside, balance_append]
  simp [quotedAfter, balance]

/-- Calls are told by quotations. -/
theorem exists_call_iff_isQuotedCall (text : String) :
    (∃ name arguments, Entry.ofText text = .call name arguments) ↔ IsQuotedCall text.toList := by
  have hbalanced {letters list : List Char} (h : IsCallShaped text.toList letters list) :
      isBalanced list = true ↔
        (∀ u, u <+: list → 0 < balance (unquotedFrom false ('=' :: letters ++ '(' :: u))) ∧
          balance (unquotedFrom false ('=' :: letters ++ '(' :: list)) = 1 := by
    simp only [h.balance_unquoted, isBalanced_iff]
    exact and_congr (forall_congr' fun u => forall_congr' fun _ => by omega) (by omega)
  simp only [Entry.ofText_eq_call_iff, IsQuotedCall]
  constructor
  · rintro ⟨_, _, letters, list, htext, hne, hletters, hlist, -, -⟩
    have hshape := isCallShaped_iff.2 ⟨htext, hne, hletters⟩
    exact ⟨letters, list, hshape, (hbalanced hshape).1 hlist⟩
  · rintro ⟨letters, list, hshape, hlist⟩
    obtain ⟨htext, hne, hletters⟩ := isCallShaped_iff.1 hshape
    exact ⟨_, _, letters, list, htext, hne, hletters, (hbalanced hshape).2 hlist, rfl, rfl⟩

/-- In front of its last character a text has the same open parentheses in both readings. -/
theorem ReadsParenthesesAlike.balance_eq (h : ReadsParenthesesAlike text) (hu : u <+: text)
    (hne : u ≠ text) : balance (codeText u) = balance (unquotedFrom false u) := by
  rw [codeText_eq]
  induction u using List.reverseRecOn with
  | nil => rfl
  | append_singleton u c ih =>
    obtain ⟨v, rfl⟩ := hu
    have hv : v ≠ [] := by
      rintro rfl
      simp at hne
    have hfront : u <+: u ++ [c] ++ v := ⟨[c] ++ v, by simp⟩
    rw [codeFrom, unquotedFrom, outside_concat, outside_concat, balance_append, balance_append,
      ← codeFrom, ← unquotedFrom, ih hfront (by simp), foldl_quotedAfter, Bool.not_not]
    by_cases hparenthesis : c = '(' ∨ c = ')'
    · have hshort : u.length < (u ++ [c] ++ v).length := by simp
      have hlast : u.length + 1 ≠ (u ++ [c] ++ v).length := by
        have := List.length_pos_iff.2 hv
        simp only [List.length_append, List.length_singleton]
        omega
      have hread := h u.length hshort (by simpa using hparenthesis)
      rw [List.append_assoc, List.take_left, or_iff_left (by simpa using hlast)] at hread
      have hsame : (Position.code.afterAll u == .code) = decide (Even (u.count '"')) := by
        rw [Bool.eq_iff_iff, beq_iff_eq, decide_eq_true_iff, hread]
      rw [← Position.afterAll, hsame]
    · -- other characters do not count
      have hzero : balance [c] = 0 :=
        balance_singleton_of_ne (fun hc => hparenthesis (.inl hc)) fun hc => hparenthesis (.inr hc)
      split <;> split <;> simp [hzero]

/-- The last parenthesis of a text of the shape of a call stands outside string literals. -/
theorem ReadsParenthesesAlike.balance_last (h : ReadsParenthesesAlike (u ++ [')'])) :
    balance (codeText (u ++ [')'])) = balance (codeText u) - 1 := by
  have hread := h u.length (by simp) (by simp)
  have hcode : Position.code.afterAll u = .code := by simpa using hread
  rw [codeText_eq, codeText_eq, codeFrom_append, balance_append, hcode]
  simp [codeFrom, outside, balance]
  omega

/-- **Which texts are calls.** A call is recognised by its parentheses when every quotation mark
opens or closes a quotation. As long as the parentheses outside string literals are those outside
quotations, these are the texts whose last character closes the parenthesis behind the name. -/
theorem exists_call_iff (text : String) :
    ((∃ name arguments, Entry.ofText text = .call name arguments) ↔ IsQuotedCall text.toList) ∧
      (ReadsParenthesesAlike text.toList →
        ((∃ name arguments, Entry.ofText text = .call name arguments) ↔
          IsEnclosedCall text.toList)) := by
  refine ⟨exists_call_iff_isQuotedCall text, fun h => ?_⟩
  rw [exists_call_iff_isQuotedCall]
  refine exists_congr fun name => exists_congr fun list => and_congr_right fun hshape => ?_
  have hfront {u : List Char} (hu : u <+: list) :
      balance (codeText ('=' :: name ++ '(' :: u)) =
        balance (unquotedFrom false ('=' :: name ++ '(' :: u)) := by
    obtain ⟨v, rfl⟩ := hu
    refine h.balance_eq ⟨v ++ [')'], ?_⟩ fun heq => ?_
    · simp [hshape.text_eq]
    · have := congrArg List.length (heq.trans hshape.text_eq)
      simp at this
  have hlast := h
  rw [hshape.text_eq] at hlast
  rw [hshape.text_eq, hlast.balance_last, hfront (List.prefix_refl list)]
  refine and_congr (forall_congr' fun u => forall_congr' fun hu => ?_) (by omega)
  rw [hfront hu]

/-- Parentheses inside a literal with escaped quotation marks are read alike. -/
theorem exists_call_of_escaped_marks :
    ReadsParenthesesAlike "=UPPER(\"(\\\"x\\\"\")".toList ∧
      ((∃ name arguments, Entry.ofText "=UPPER(\"(\\\"x\\\"\")" = .call name arguments) ↔
        IsEnclosedCall "=UPPER(\"(\\\"x\\\"\")".toList) := by
  have hread : ReadsParenthesesAlike "=UPPER(\"(\\\"x\\\"\")".toList := by
    unfold ReadsParenthesesAlike
    decide +kernel
  exact ⟨hread, (exists_call_iff _).2 hread⟩

/-- A parenthesis behind an escaped quotation mark counts although it stands in a literal, and so
does the last one in a literal that is never closed. -/
theorem not_exists_call_iff_isEnclosedCall :
    (¬((∃ name arguments, Entry.ofText "=UPPER(\"\\\"(\")" = .call name arguments) ↔
        IsEnclosedCall "=UPPER(\"\\\"(\")".toList)) ∧
      ¬((∃ name arguments, Entry.ofText "=SUM(\"\\\")" = .call name arguments) ↔
        IsEnclosedCall "=SUM(\"\\\")".toList) := by
  constructor
  · intro hiff
    have hform : Entry.ofText "=UPPER(\"\\\"(\")" = .expression "UPPER(\"\\\"(\")" := by
      decide +kernel
    have hinits : ∀ u ∈ "\"\\\"(\"".toList.inits,
        0 < balance (codeText ('=' :: "UPPER".toList ++ '(' :: u)) := by decide +kernel
    have hshape : IsCallShaped "=UPPER(\"\\\"(\")".toList "UPPER".toList "\"\\\"(\"".toList :=
      ⟨by decide +kernel, by decide, nameChars_of_all (by decide)⟩
    obtain ⟨name, arguments, hcall⟩ := hiff.2
      ⟨_, _, hshape, fun u hu => hinits u ((List.mem_inits ..).2 hu), by decide +kernel⟩
    rw [hform] at hcall
    cases hcall
  · intro hiff
    have hform : Entry.ofText "=SUM(\"\\\")" = .call "SUM" ["\"\\\""] := by decide +kernel
    have hopen : balance (codeText "=SUM(\"\\\")".toList) ≠ 0 := by decide +kernel
    obtain ⟨name, list, -, -, hclosed⟩ := hiff.1 ⟨_, _, hform⟩
    exact hopen hclosed

end Spreadsheet.Formula
