import Mathlib.Logic.Basic
import Spreadsheet.Formula.Argument
import Spreadsheet.Proofs.Formula.Literal
import Spreadsheet.Proofs.Formula.Mention

/-!
# Positions in a formula

Code and string literals are told apart character by character: `Position.after` is the step of a
reader that knows escapes, as the extraction of dependencies does.

* `exists_code_segment`: a text without quotation marks that starts in code lies within one code
  segment.
* `locate` pairs the pieces of an argument list with the positions at which they start. Arguments
  are found by another reader, which knows no escapes, so a piece may start inside a literal.
-/

namespace Spreadsheet.Formula

/-- Where a reader of string literals is. -/
inductive Position
  | code
  | literal
  /-- In a literal, behind a backslash that takes the next character along. -/
  | escaped
  deriving DecidableEq, Repr

namespace Position

variable {p : Position} {c : Char} {text u v : List Char}

/-- The position after a character. -/
def after : Position → Char → Position
  | code, c => if c == '"' then literal else code
  | literal, c => if c == '"' then code else if c == '\\' then escaped else literal
  | escaped, _ => literal

/-- The position after a text. -/
def afterAll (p : Position) (text : List Char) : Position :=
  text.foldl after p

@[simp] theorem afterAll_nil : p.afterAll [] = p := rfl

@[simp] theorem afterAll_cons : p.afterAll (c :: text) = (p.after c).afterAll text := rfl

@[simp] theorem afterAll_append : p.afterAll (u ++ v) = (p.afterAll u).afterAll v :=
  List.foldl_append

/-- Only a quotation mark leads into code. -/
theorem after_eq_code_iff (hc : c ≠ '"') : p.after c = code ↔ p = code := by
  cases p with
  | code => simp [after, hc]
  | literal =>
    simp only [after, beq_iff_eq, hc, if_false]
    split <;> simp
  | escaped => simp [after]

theorem afterAll_eq_code_iff (htext : ∀ c ∈ text, c ≠ '"') :
    p.afterAll text = code ↔ p = code := by
  induction text generalizing p with
  | nil => rfl
  | cons c text ih =>
    obtain ⟨hc, htext⟩ := List.forall_mem_cons.1 htext
    rw [afterAll_cons, ih htext, after_eq_code_iff hc]

/-- A reader that has come from a literal into code has read the closing mark of the literal. -/
theorem exists_literal : ∀ {text : List Char}, afterAll literal text = code →
    ∃ inside content rest, text = inside ++ '"' :: rest ∧ StandsFor inside content ∧
      afterAll code rest = code
  | [], h => by cases h
  | c :: text, h => by
    by_cases hmark : c = '"'
    · subst hmark
      exact ⟨[], [], text, rfl, .nil, h⟩
    · by_cases hescape : c = '\\'
      · subst hescape
        cases text with
        | nil => cases h
        | cons d text =>
          have hafter : afterAll literal text = code := h
          obtain ⟨inside, content, rest, rfl, hinside, hrest⟩ := exists_literal hafter
          exact ⟨'\\' :: d :: inside, d :: content, rest, rfl, .escaped hinside, hrest⟩
      · have hafter : literal.after c = literal := by simp [after, hmark, hescape]
        rw [afterAll_cons, hafter] at h
        obtain ⟨inside, content, rest, rfl, hinside, hrest⟩ := exists_literal h
        exact ⟨c :: inside, c :: content, rest, rfl, .plain hmark hescape hinside, hrest⟩

/-- A reader that has come from a literal into code has read the span of the literal, whatever
follows. -/
theorem exists_literalSpan (h : afterAll literal text = code) :
    ∃ span rest, text = span ++ rest ∧ afterAll code rest = code ∧
      ∀ more, literalSpan (text ++ more) = (span, rest ++ more) := by
  obtain ⟨inside, content, rest, rfl, hinside, hrest⟩ := exists_literal h
  refine ⟨inside ++ ['"'], rest, List.append_cons .., hrest, fun more => ?_⟩
  rw [List.append_assoc, List.cons_append, hinside.literalSpan_append]

end Position

variable {text more : List Char}

theorem isCodeChar_of_forall (htext : ∀ c ∈ text, c ≠ '"') : ∀ c ∈ text, isCodeChar c = true :=
  fun c hc => by simpa [isCodeChar] using htext c hc

/-- The code in front of a text belongs to its first segment. -/
theorem mem_codeSegments_of_code (hne : text ≠ []) (htext : ∀ c ∈ text, c ≠ '"') :
    text ++ more.takeWhile isCodeChar ∈ codeSegments (text ++ more) := by
  obtain ⟨c, text, rfl⟩ := List.exists_cons_of_ne_nil hne
  obtain ⟨hc, htext⟩ := List.forall_mem_cons.1 htext
  rw [List.cons_append, List.cons_append, codeSegments_cons hc,
    List.takeWhile_append_of_pos (isCodeChar_of_forall htext)]
  exact List.mem_cons_self

/-- Code in front of a literal makes up a segment of its own. -/
theorem mem_codeSegments_append (htext : ∀ c ∈ text, c ≠ '"') {code : List Char}
    (hcode : code ∈ codeSegments ('"' :: more)) : code ∈ codeSegments (text ++ '"' :: more) := by
  cases text with
  | nil => exact hcode
  | cons c text =>
    obtain ⟨hc, htext⟩ := List.forall_mem_cons.1 htext
    rw [List.cons_append, codeSegments_cons hc,
      List.dropWhile_append_of_pos (isCodeChar_of_forall htext)]
    exact List.mem_cons_of_mem _ hcode

/-- A text without quotation marks that starts in code lies within one code segment. -/
theorem exists_code_segment {text x : List Char} (more : List Char)
    (htext : Position.code.afterAll text = .code) (hne : x ≠ []) (hx : ∀ c ∈ x, c ≠ '"') :
    ∃ u v, u ++ x ++ v ∈ codeSegments (text ++ x ++ more) := by
  by_cases hmark : '"' ∈ text
  · obtain ⟨w, rest, hsplit, hw⟩ := List.eq_append_cons_of_mem hmark
    have hw : ∀ c ∈ w, c ≠ '"' := fun c hc h => hw (h ▸ hc)
    rw [hsplit, Position.afterAll_append, (Position.afterAll_eq_code_iff hw).2 rfl] at htext
    obtain ⟨span, later, hrest, hlater, hspan⟩ := Position.exists_literalSpan htext
    have hshort : later.length < text.length := by
      simp only [hsplit, hrest, List.length_append, List.length_cons]
      omega
    obtain ⟨u, v, huv⟩ := exists_code_segment more hlater hne hx
    refine ⟨u, v, ?_⟩
    rw [List.append_assoc] at huv
    rw [hsplit, List.append_assoc, List.append_assoc, List.cons_append]
    refine mem_codeSegments_append hw ?_
    rwa [codeSegments_mark, hspan]
  · have hcode : ∀ c ∈ text ++ x, c ≠ '"' := by
      intro c hc h
      exact (List.mem_append.1 hc).elim (fun hc => hmark (h ▸ hc)) fun hc => hx c hc h
    exact ⟨text, _, mem_codeSegments_of_code (by simp [hne]) hcode⟩
termination_by text.length

/-! ## The pieces of an argument list -/

/-- The pieces of a text between commas and the positions at which they start. -/
def locate (p : Position) : List (List Char) → List (Position × List Char)
  | [] => []
  | piece :: pieces => (p, piece) :: locate ((p.afterAll piece).after ',') pieces

/-- Splitting loses nothing but the commas. -/
theorem flatMap_splitFrom (n : Nesting) (text : List Char) :
    (splitFrom n text).flatMap (',' :: ·) = ',' :: text := by
  induction text generalizing n with
  | nil => rfl
  | cons c text ih =>
    rw [splitFrom]
    split
    · rename_i hcomma
      simp only [Bool.and_eq_true, beq_iff_eq] at hcomma
      rw [List.flatMap_cons, ih, hcomma.1]
      rfl
    · have hrest := ih (n.after c)
      split
      · rename_i hnil
        rw [hnil] at hrest
        cases hrest
      · rename_i piece pieces hpieces
        rw [hpieces] at hrest
        simp only [List.flatMap_cons, List.cons_append, List.cons.injEq, true_and] at hrest ⊢
        exact hrest

theorem map_snd_locate (p : Position) (pieces : List (List Char)) :
    (locate p pieces).map Prod.snd = pieces := by
  induction pieces generalizing p with
  | nil => rfl
  | cons piece pieces ih => rw [locate, List.map_cons, ih]

theorem exists_append_of_mem_locate {p q : Position} {piece : List Char}
    {pieces : List (List Char)} (h : (q, piece) ∈ locate p pieces) :
    ∃ before after, pieces = before ++ piece :: after ∧
      q = p.afterAll (before.flatMap (· ++ [','])) := by
  induction pieces generalizing p with
  | nil => cases h
  | cons first pieces ih =>
    rcases List.mem_cons.1 h with h | h
    · cases h
      exact ⟨[], pieces, rfl, rfl⟩
    · obtain ⟨before, after, rfl, rfl⟩ := ih h
      refine ⟨first :: before, after, rfl, ?_⟩
      simp

theorem cons_flatMap_comma (pieces : List (List Char)) :
    ',' :: pieces.flatMap (· ++ [',']) = pieces.flatMap (',' :: ·) ++ [','] := by
  induction pieces with
  | nil => rfl
  | cons piece pieces ih => simp [← ih]

/-- A located piece lies between commas, or ends of the text, and starts at its position. -/
theorem exists_of_mem_locate {n : Nesting} {p q : Position} {text piece : List Char}
    (h : (q, piece) ∈ locate p (splitFrom n text)) :
    ∃ before after, text = before ++ piece ++ after ∧ q = p.afterAll before ∧
      (before = [] ∨ ∃ u, before = u ++ [',']) ∧ (after = [] ∨ ∃ v, after = ',' :: v) := by
  obtain ⟨before, after, hpieces, hq⟩ := exists_append_of_mem_locate h
  refine ⟨before.flatMap (· ++ [',']), after.flatMap (',' :: ·), ?_, hq, ?_, ?_⟩
  · have htext := flatMap_splitFrom n text
    rw [hpieces, List.flatMap_append, List.flatMap_cons, List.cons_append, List.append_cons,
      ← cons_flatMap_comma, List.cons_append, List.cons.injEq] at htext
    rw [List.append_assoc]
    exact htext.2.symm
  · rcases List.eq_nil_or_concat before with rfl | ⟨u, x, rfl⟩
    · exact .inl rfl
    · exact .inr ⟨u.flatMap (· ++ [',']) ++ x, by simp⟩
  · cases after with
    | nil => exact .inl rfl
    | cons x after => exact .inr ⟨_, rfl⟩

/-! ## Texts without escaped quotation marks -/

/-- No quotation mark is taken along by a backslash when the text is read from a position. -/
def EscapesNoMark (p : Position) (text : List Char) : Prop :=
  ∀ u v, text = u ++ '"' :: v → p.afterAll u ≠ .escaped

theorem EscapesNoMark.tail {p : Position} {c : Char} (h : EscapesNoMark p (c :: text)) :
    EscapesNoMark (p.after c) text :=
  fun u v huv => h (c :: u) v (by rw [huv, List.cons_append])

theorem escaped_of_afterAll {p : Position} (hp : p ≠ .escaped) {u : List Char}
    (h : p.afterAll u = .escaped) : ∃ v, u = v ++ ['\\'] := by
  rcases List.eq_nil_or_concat u with rfl | ⟨v, c, rfl⟩
  · exact absurd h hp
  · refine ⟨v, ?_⟩
    rw [List.concat_eq_append] at h ⊢
    rw [Position.afterAll_append, Position.afterAll_cons, Position.afterAll_nil] at h
    cases hv : p.afterAll v with
    | code =>
      simp only [hv, Position.after] at h
      split at h <;> cases h
    | literal =>
      simp only [hv, Position.after, beq_iff_eq] at h
      split at h
      · cases h
      · split at h
        · rename_i hc
          rw [hc]
        · cases h
    | escaped => simp [hv, Position.after] at h

theorem escapesNoMark_of_not_isInfix (h : ¬['\\', '"'] <:+: text) : EscapesNoMark .code text := by
  intro u v huv hescaped
  obtain ⟨w, rfl⟩ := escaped_of_afterAll (by simp) hescaped
  exact h ⟨w, v, by simp [huv]⟩

/-- Without escaped marks both readers agree on what stands between quotation marks. -/
theorem quoted_after {n : Nesting} {p : Position} {c : Char}
    (hagree : n.quoted = true ↔ p ≠ .code) (hc : c = '"' → p ≠ .escaped) :
    (n.after c).quoted = true ↔ p.after c ≠ .code := by
  by_cases hmark : c = '"'
  · subst hmark
    cases p <;> simp_all [Nesting.after, Position.after]
  · rw [ne_eq, Position.after_eq_code_iff hmark, ← ne_eq, ← hagree]
    simp only [Nesting.after, beq_iff_eq, hmark, if_false]
    split
    · rfl
    · split
      · rfl
      · split <;> rfl

/-- Without escaped marks every piece but the first starts in code. -/
theorem code_of_mem_tail_locate {n : Nesting} {p : Position} {text : List Char}
    (hagree : n.quoted = true ↔ p ≠ .code) (hmark : EscapesNoMark p text) :
    ∀ x ∈ (locate p (splitFrom n text)).tail, x.1 = .code := by
  induction text generalizing n p with
  | nil => simp [splitFrom, locate]
  | cons c text ih =>
    have hrest := ih (quoted_after hagree fun hc => hmark [] text (by simp [hc])) hmark.tail
    rw [splitFrom]
    split
    · rename_i hcomma
      simp only [Bool.and_eq_true, beq_iff_eq, Nesting.isTop, Bool.not_eq_true'] at hcomma
      obtain ⟨rfl, hquoted, -⟩ := hcomma
      have hp : p = .code := by
        by_contra hp
        rw [hagree.2 hp] at hquoted
        cases hquoted
      have hcomma := ih (n := n) (p := p) hagree (by simpa [hp, Position.after] using hmark.tail)
      subst hp
      intro x hx
      change x ∈ locate .code (splitFrom n text) at hx
      cases hpieces : splitFrom n text with
      | nil =>
        rw [hpieces] at hx
        cases hx
      | cons piece pieces =>
        rw [hpieces] at hx hcomma
        rcases List.mem_cons.1 hx with rfl | hx
        · rfl
        · exact hcomma x hx
    · split
      · simp [locate]
      · rename_i piece pieces hpieces
        rw [hpieces] at hrest
        exact hrest

end Spreadsheet.Formula
