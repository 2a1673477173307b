import Spreadsheet.Proofs.Expression.Tokens
import Spreadsheet.Proofs.Formula.Words

/-!
# Two readers of string literals

A formula is cut into code and string literals before its references are looked for, and it is read
as tokens when it is evaluated. The one reader watches marks and backslashes only, the other knows
all tokens and takes what is escaped along with its backslash. What is substituted is right only if
both find the same literals.

* `segments_eq_cut`: the first reader needs to see no more than one character at a time.
* `Expression.Laid` lays lexemes out in a text, `Expression.exists_laid` the ones that are read.
* `literalSpans` and `Expression.stringSpans` are the literals that the two readers find, with the
  indices at which they start.
* `literalSpans_eq_stringSpans`: they are the same, and all of them are closed.
-/

namespace Spreadsheet.Formula

open Expression (Lexeme)

variable {c : Char} {text rest w current inside content : List Char} {n : Nat} {p : Position}

/-! ## Character by character -/

/-- The segment that a reader is in. -/
def Position.segment (p : Position) (text : List Char) : Segment :=
  match p with
  | code => .code text
  | _ => .literal text

/-- The segment that a reader leaves, if it has read anything of it. -/
def Position.leave (p : Position) (current : List Char) : List Segment :=
  if current = [] then [] else [p.segment current]

/-- The segments that a reader finds that takes one character after the other. It remembers where it
is and what it has read of the segment that it is in. -/
def cut (p : Position) (current : List Char) : List Char → List Segment
  | [] => p.leave current
  | c :: rest =>
    match p, p.after c with
    | .code, .code => cut .code (current ++ [c]) rest
    | .code, q => Position.code.leave current ++ cut q [c] rest
    | _, .code => .literal (current ++ [c]) :: cut .code [] rest
    | _, q => cut q (current ++ [c]) rest

theorem cut_literal (hcurrent : current ≠ []) :
    cut .literal current text =
      .literal (current ++ (literalSpan text).1) :: cut .code [] (literalSpan text).2 := by
  fun_induction literalSpan text generalizing current with
  | case1 => simp [cut, Position.leave, hcurrent, Position.segment]
  | case2 c rest hc => simp_all [cut, Position.after]
  | case3 c hc hescape => simp_all [cut, Position.after, Position.leave, Position.segment]
  | case4 c hc hescape d after ih =>
    have hc : c = '\\' := by simpa using hescape
    subst hc
    have hne : current ++ ['\\'] ++ [d] ≠ [] := by simp
    simpa [cut, Position.after] using ih hne
  | case5 c rest hc hescape ih =>
    have hne : current ++ [c] ≠ [] := by simp
    have hnext := ih hne
    simp_all [cut, Position.after]

theorem cut_code (hcurrent : current ≠ []) :
    cut .code current text =
      .code (current ++ text.takeWhile isCodeChar) :: cut .code [] (text.dropWhile isCodeChar) := by
  induction text generalizing current with
  | nil => simp [cut, Position.leave, hcurrent, Position.segment]
  | cons c text ih =>
    by_cases hc : c = '"'
    · subst hc
      simp [cut, Position.after, isCodeChar, Position.leave, hcurrent, Position.segment]
    · have hcode : isCodeChar c = true := by simpa [isCodeChar] using hc
      have hne : current ++ [c] ≠ [] := by simp
      simpa [cut, Position.after, hc, hcode] using ih hne

/-- **Reading character by character** finds the segments of a text. -/
theorem segments_eq_cut (text : List Char) : segments text = cut .code [] text := by
  fun_induction segments text with
  | case1 => rfl
  | case2 c rest hc ih =>
    obtain rfl : c = '"' := by simpa using hc
    have hcut : cut .code [] ('"' :: rest) = cut .literal ['"'] rest := rfl
    rw [hcut, cut_literal (List.cons_ne_nil _ _), ih]
    rfl
  | case3 c rest hc ih =>
    have hcut : cut .code [] (c :: rest) = cut .code [c] rest := by
      simp_all [cut, Position.after]
    rw [hcut, cut_code (List.cons_ne_nil _ _), ih]
    rfl

/-! ## The shape of the segments -/

theorem ne_nil_of_mem_segments {s : Segment} (hs : s ∈ segments text) : s.text ≠ [] := by
  fun_induction segments text with
  | case1 => cases hs
  | case2 c rest hc ih =>
    rcases List.mem_cons.1 hs with rfl | hs
    · exact List.cons_ne_nil _ _
    · exact ih hs
  | case3 c rest hc ih =>
    rcases List.mem_cons.1 hs with rfl | hs
    · exact List.cons_ne_nil _ _
    · exact ih hs

/-- Of two segments next to each other one is a literal. -/
theorem isChain_segments (text : List Char) :
    (segments text).IsChain fun s t => s.code? = none ∨ t.code? = none := by
  fun_induction segments text with
  | case1 => exact .nil
  | case2 c rest hc ih => exact List.isChain_cons.2 ⟨fun _ _ => .inl rfl, ih⟩
  | case3 c rest hc ih =>
    refine List.isChain_cons.2 ⟨fun t ht => .inr ?_, ih⟩
    -- code ends at a mark or with the text
    have hend := List.head?_dropWhile_not isCodeChar rest
    cases hdrop : rest.dropWhile isCodeChar with
    | nil =>
      rw [hdrop, segments] at ht
      cases ht
    | cons d later =>
      rw [hdrop] at hend ht
      obtain rfl : d = '"' := by simpa [isCodeChar] using hend
      rw [segments, if_pos (by rfl)] at ht
      cases ht
      rfl

/-! ## Where the literals are -/

/-- The literals of some segments, with the indices at which they start if the first segment starts
at index `n`. -/
def literalsFrom (n : Nat) : List Segment → List (Nat × List Char)
  | [] => []
  | .code text :: rest => literalsFrom (n + text.length) rest
  | .literal text :: rest => (n, text) :: literalsFrom (n + text.length) rest

/-- The literals of a text with the indices at which they start. -/
def literalSpans (text : List Char) : List (Nat × List Char) :=
  literalsFrom 0 (segments text)

theorem literalsFrom_mark (n : Nat) (rest : List Char) :
    literalsFrom n (segments ('"' :: rest)) = (n, '"' :: (literalSpan rest).1) ::
      literalsFrom (n + (literalSpan rest).1.length + 1) (segments (literalSpan rest).2) := by
  rw [segments, if_pos (by rfl)]
  rfl

/-- Code only shifts the literals behind it. -/
theorem literalsFrom_cons (hc : c ≠ '"') (n : Nat) (rest : List Char) :
    literalsFrom n (segments (c :: rest)) = literalsFrom (n + 1) (segments rest) := by
  have hcode (c : Char) (hc : c ≠ '"') (n : Nat) (rest : List Char) :
      literalsFrom n (segments (c :: rest)) =
        literalsFrom (n + 1 + (rest.takeWhile isCodeChar).length)
          (segments (rest.dropWhile isCodeChar)) := by
    rw [segments, if_neg (by simpa using hc), literalsFrom, List.length_cons]
    congr 1
    omega
  rw [hcode c hc]
  cases rest with
  | nil => rfl
  | cons d rest =>
    by_cases hd : d = '"'
    · subst hd
      rfl
    · have hisCode : isCodeChar d = true := by simpa [isCodeChar] using hd
      rw [hcode d hd, List.takeWhile_cons_of_pos hisCode, List.dropWhile_cons_of_pos hisCode,
        List.length_cons]
      congr 1
      omega

theorem literalsFrom_append (hw : ∀ c ∈ w, c ≠ '"') (n : Nat) (rest : List Char) :
    literalsFrom n (segments (w ++ rest)) = literalsFrom (n + w.length) (segments rest) := by
  induction w generalizing n with
  | nil => rfl
  | cons c w ih =>
    obtain ⟨hc, hw⟩ := List.forall_mem_cons.1 hw
    rw [List.cons_append, literalsFrom_cons hc, ih hw, List.length_cons]
    congr 1
    omega

/-- A literal with both its marks. -/
def IsClosed (w : List Char) : Prop :=
  ∃ inside content, StandsFor inside content ∧ w = '"' :: (inside ++ ['"'])

end Spreadsheet.Formula

namespace Spreadsheet.Expression

open Formula (StandsFor)

variable {c : Char} {text rest : List Char} {n offset : Nat} {l : Lexeme} {found : List Lexeme}
  {placed : List (Nat × Lexeme)}

/-! ## Lexemes in a text -/

/-- The characters of the lexeme write its token. -/
inductive Lexeme.IsWritten : Lexeme → Prop
  | symbol {t : Token} {c : Char} (hc : Token.ofChar? c = some t) : IsWritten ⟨t, [c]⟩
  | text {inside content : List Char} (h : StandsFor inside content) :
    IsWritten ⟨.text (String.ofList content), '"' :: (inside ++ ['"'])⟩
  | number {x : Float} {c : Char} {tail : List Char} (hc : (c.isDigit || c == '.') = true)
    (htail : Token.numberTail c tail = tail) (hread : Decimal.read? (c :: tail) = some x) :
    IsWritten ⟨.number x, c :: tail⟩

/-- A text that starts at index `n` consists of blanks and of the lexemes, each at its index. -/
inductive Laid : Nat → List Char → List (Nat × Lexeme) → Prop
  | nil {n : Nat} : Laid n [] []
  | blank {n : Nat} {c : Char} {rest : List Char} {placed : List (Nat × Lexeme)}
    (hc : Text.isBlank c = true) (h : Laid (n + 1) rest placed) : Laid n (c :: rest) placed
  | lexeme {n : Nat} {l : Lexeme} {rest : List Char} {placed : List (Nat × Lexeme)}
    (hl : l.IsWritten) (h : Laid (n + l.source.length) rest placed) :
    Laid n (l.source ++ rest) ((n, l) :: placed)

/-- The lexeme that is read first. -/
theorem isWritten_of_starting (h : Lexeme.starting offset c rest = .ok l) :
    l.IsWritten ∧ ∃ tail after, l.source = c :: tail ∧ rest = tail ++ after := by
  rw [Lexeme.starting] at h
  split at h
  · rename_i t ht
    cases h
    exact ⟨.symbol ht, [], rest, rfl, rfl⟩
  · split at h
    · rename_i hc
      obtain rfl : c = '"' := by simpa using hc
      obtain ⟨inside, content, after, rfl, hinside, rfl⟩ := Lexeme.ofLiteral_eq_ok_iff.1 h
      exact ⟨.text hinside, inside ++ ['"'], after, rfl, by simp⟩
    · split at h
      · rename_i hc
        rw [Lexeme.ofNumber] at h
        split at h
        · rename_i x hread
          cases h
          obtain ⟨after, hrest, -⟩ := exists_numberTail c rest
          exact ⟨.number hc (numberTail_numberTail c rest) hread, _, after, rfl, hrest⟩
        · cases h
      · cases h

/-- The lexemes that are read make up the text, blanks apart. -/
theorem exists_laid (h : lexemesFrom offset text = .ok found) (n : Nat) :
    ∃ placed, placed.map Prod.snd = found ∧ Laid n text placed := by
  fun_induction lexemesFrom offset text generalizing found n with
  | case1 =>
    cases h
    exact ⟨[], rfl, .nil⟩
  | case2 offset c rest hc ih =>
    obtain ⟨placed, hfound, hlaid⟩ := ih h (n + 1)
    exact ⟨placed, hfound, .blank hc hlaid⟩
  | case3 => cases h
  | case4 offset c rest hc l hl after =>
    rename_i ih
    obtain ⟨later, hlater, rfl⟩ := Except.map_eq_ok_iff.1 h
    obtain ⟨hwritten, tail, behind, hsource, rfl⟩ := isWritten_of_starting hl
    have hdrop : (tail ++ behind).drop (l.source.length - 1) = behind := by
      rw [hsource]
      exact List.drop_left
    obtain ⟨placed, rfl, hlaid⟩ := ih hlater (n + l.source.length)
    rw [hdrop] at hlaid
    refine ⟨(n, l) :: placed, rfl, ?_⟩
    rw [← List.cons_append, ← hsource]
    exact .lexeme hwritten hlaid

/-- The characters of a literal among the lexemes, and its index. -/
def stringSpan? : Nat × Lexeme → Option (Nat × List Char)
  | (n, ⟨.text _, source⟩) => some (n, source)
  | _ => none

/-- The literals among some lexemes, with their indices. -/
def stringSpans (placed : List (Nat × Lexeme)) : List (Nat × List Char) :=
  placed.filterMap stringSpan?

theorem stringSpan?_symbol {t : Token} (hc : Token.ofChar? c = some t) :
    stringSpan? (n, ⟨t, [c]⟩) = none := by
  unfold Token.ofChar? at hc
  split at hc <;> · cases hc <;> rfl

/-- **The literals of the segments are those of the lexemes**, wherever the text starts. -/
theorem literalsFrom_of_laid (h : Laid n text placed) :
    Formula.literalsFrom n (Formula.segments text) = stringSpans placed := by
  induction h with
  | nil =>
    rw [Formula.segments]
    rfl
  | blank hc h ih => rw [Formula.literalsFrom_cons (Text.ne_of_isBlank hc (by decide)), ih]
  | lexeme hl h ih =>
    cases hl with
    | @symbol t c hc =>
      have hmark : c ≠ '"' := by
        rintro rfl
        cases hc
      rw [List.singleton_append, Formula.literalsFrom_cons hmark]
      exact ih.trans (List.filterMap_cons_none (stringSpan?_symbol hc)).symm
    | @text inside content hinside =>
      rw [List.cons_append, List.append_assoc, List.singleton_append, Formula.literalsFrom_mark,
        hinside.literalSpan_append]
      exact congrArg (_ :: ·) ih
    | @number x c tail hc htail hread =>
      have hmark : ∀ d ∈ c :: tail, d ≠ '"' :=
        List.forall_mem_cons.2 ⟨(of_startsNumber hc).2.2, ne_mark_of_numberTail htail⟩
      rw [Formula.literalsFrom_append hmark, ih]
      rfl

theorem Laid.isWritten (h : Laid n text placed) : ∀ x ∈ placed, x.2.IsWritten := by
  induction h with
  | nil => simp
  | blank hc h ih => exact ih
  | lexeme hl h ih => exact List.forall_mem_cons.2 ⟨hl, ih⟩

/-- The literals among lexemes that are laid out in a text are closed. -/
theorem Laid.isClosed (h : Laid n text placed) :
    ∀ x ∈ stringSpans placed, Formula.IsClosed x.2 := by
  intro x hx
  obtain ⟨⟨m, l⟩, hl, hspan⟩ := List.mem_filterMap.1 hx
  have hwritten := h.isWritten _ hl
  cases hwritten with
  | symbol hc =>
    rw [stringSpan?_symbol hc] at hspan
    cases hspan
  | text hinside =>
    cases hspan
    exact ⟨_, _, hinside, rfl⟩
  | number => cases hspan

end Spreadsheet.Expression

namespace Spreadsheet.Formula

open Expression (Laid stringSpans)

variable {w : List Char}

theorem exists_mem_literalsFrom {parts : List Segment} (hw : .literal w ∈ parts) (n : Nat) :
    ∃ k, (k, w) ∈ literalsFrom n parts := by
  induction parts generalizing n with
  | nil => cases hw
  | cons s parts ih =>
    cases s with
    | code text => exact ih ((List.mem_cons.1 hw).resolve_left (by simp)) _
    | literal text =>
      rcases List.mem_cons.1 hw with hw | hw
      · cases hw
        exact ⟨n, List.mem_cons_self⟩
      · obtain ⟨k, hk⟩ := ih hw (n + text.length)
        exact ⟨k, List.mem_cons_of_mem _ hk⟩

/-- **Both readers find the same literals.** In a text that can be read as tokens, the literals
among the segments are those among the lexemes, at the same indices and in the same order, and all
of them are closed. The segments of any text make it up, none of them is empty, and of two next to
each other one is a literal. -/
theorem literalSpans_eq_stringSpans (text : List Char) :
    (∀ found, Expression.lexemes text = .ok found →
      ∃ placed, placed.map Prod.snd = found ∧ Laid 0 text placed ∧
        literalSpans text = stringSpans placed ∧ ∀ w, .literal w ∈ segments text → IsClosed w) ∧
    (segments text).flatMap Segment.text = text ∧ (∀ s ∈ segments text, s.text ≠ []) ∧
    (segments text).IsChain fun s t => s.code? = none ∨ t.code? = none := by
  refine ⟨fun found h => ?_, flatten_segments text, fun _ => ne_nil_of_mem_segments,
    isChain_segments text⟩
  obtain ⟨placed, hfound, hlaid⟩ := Expression.exists_laid h 0
  have hspans : literalSpans text = stringSpans placed := Expression.literalsFrom_of_laid hlaid
  refine ⟨placed, hfound, hlaid, hspans, fun w hw => ?_⟩
  obtain ⟨k, hk⟩ := exists_mem_literalsFrom hw 0
  exact hlaid.isClosed (k, w) (hspans ▸ hk)

/-- Two literals without anything between them, which hold a mark and a backslash. -/
theorem literalSpans_eq_stringSpans_adjacent :
    let text := "\"a\\\"\"\"\\\\\"".toList
    Expression.tokens text = .ok [.text "a\"", .text "\\"] ∧
      literalSpans text = [(0, "\"a\\\"\"".toList), (5, "\"\\\\\"".toList)] ∧
      ∃ found placed, Expression.lexemes text = .ok found ∧ placed.map Prod.snd = found ∧
        Laid 0 text placed ∧ literalSpans text = stringSpans placed ∧
        ∀ w, .literal w ∈ segments text → IsClosed w := by
  intro text
  have htokens : Expression.tokens text = .ok [.text "a\"", .text "\\"] := by decide +kernel
  obtain ⟨found, hfound, -⟩ := Except.map_eq_ok_iff.1 htokens
  obtain ⟨placed, hplaced⟩ := (literalSpans_eq_stringSpans text).1 found hfound
  exact ⟨htokens, by decide +kernel, found, placed, hfound, hplaced⟩

end Spreadsheet.Formula
