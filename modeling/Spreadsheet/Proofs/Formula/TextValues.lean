import Spreadsheet.Proofs.Formula.Call
import Spreadsheet.Proofs.Formula.Scanners
import Spreadsheet.Proofs.Formula.Substitution
import Spreadsheet.Text.Replacement

/-!
# Texts in the place of references

The value of a cell is written into an expression before the expression is read. A text is written
as a literal, which is read as one token wherever it stands, whatever marks, backslashes and
operators are in it.

* `encodeLiteral_eq_replaceAll`: backslashes are escaped first and marks second.
* `tokens?_substitute_text`: what stands around a reference to a text is read as if the text were
  not there.
* `strings_substitute`: the strings that are read in an expression are the literals of the formula
  and the texts of its cells.
* `text_value_is_one_token` puts this together with what `=(A1)` comes to.
-/

namespace Spreadsheet.Formula

open Text Expression

variable {registry : Registry} {cells : Cells} {a : Address} {t : String}
  {w u v body rest inside content : List Char} {before after ws : List (List Char)} {ts : List Token}

/-! ## Escaping -/

/-- Replacing a character goes character by character. -/
theorem replaceAll_singleton (d : Char) (new text : List Char) :
    replaceAll [d] new text = text.flatMap fun c => if c = d then new else [c] := by
  induction text with
  | nil => rw [replaceAll]; rfl
  | cons c text ih =>
    rw [replaceAll, List.flatMap_cons]
    by_cases hc : c = d
    · subst hc
      simp [ih]
    · simp [ih, hc, Ne.symm hc]

/-- **A literal is written by two replacements**, the backslashes before the marks. -/
theorem encodeLiteral_eq_replaceAll (text : List Char) :
    encodeLiteral text =
      '"' :: replaceAll ['"'] ['\\', '"'] (replaceAll ['\\'] ['\\', '\\'] text) ++ ['"'] := by
  rw [replaceAll_singleton, replaceAll_singleton, List.flatMap_assoc, encodeLiteral]
  refine congrArg (fun inside => '"' :: inside ++ ['"']) (List.flatMap_congr fun c _ => ?_)
  by_cases hescape : c = '\\'
  · subst hescape
    rfl
  · by_cases hmark : c = '"'
    · subst hmark
      rfl
    · simp [encodeChar, hescape, hmark]

/-- A written literal is read as one token, whatever follows it. -/
theorem tokens?_encodeLiteral (text rest : List Char) :
    tokens? (encodeLiteral text ++ rest) =
      joined (some [.text (String.ofList text)]) (tokens? rest) := by
  rw [encodeLiteral, List.cons_append, List.cons_append, List.append_assoc, List.singleton_append]
  exact tokens?_literal (standsFor_flatMap_encodeChar text)

/-- No number goes on with a quotation mark. -/
theorem not_continues_mark : ¬Continues u ('"' :: v) := by
  rintro ⟨-, d, hd, hcontinues⟩
  obtain rfl : '"' = d := by simpa using hd
  simp [Token.continuesNumber] at hcontinues

/-! ## Around a text -/

/-- **Around a text** the expression is read as it would be on either side alone. -/
theorem tokens?_substitute_text (hvalues : ∀ a ∈ references body, IsOperand (cells a))
    (hbody : words body = before ++ w :: after) (ha : Address.ofLabel? w = some a)
    (ht : cells a = .text t) :
    tokens? (substitute cells body) =
      joined (tokens? (before.flatMap (substituteWord cells)))
        (joined (some [.text t]) (tokens? (after.flatMap (substituteWord cells)))) := by
  have hwords := isChain_words body
  rw [hbody] at hwords
  have hcode : Position.code.afterAll (before.flatMap (substituteWord cells)) = .code := by
    refine afterAll_flatMap hwords (fun b hb => substituteWord_of_none hb) fun b hb e he => ?_
    rw [substituteWord_of_label he]
    exact afterAll_valueLiteral (hvalues e (mem_references_of_mem_words (by simp [hbody, hb]) he))
  have hliteral : substituteWord cells w = encodeLiteral t.toList := by
    rw [substituteWord_of_label ha, ht, valueLiteral_text]
  have hstop : ¬Continues (before.flatMap (substituteWord cells))
      (encodeLiteral t.toList ++ after.flatMap (substituteWord cells)) := not_continues_mark
  rw [substitute_eq_flatMap_words, hbody, List.flatMap_append, List.flatMap_cons, hliteral,
    tokens?_append hcode hstop, tokens?_encodeLiteral, String.ofList_toList]

/-! ## The strings of an expression -/

/-- What the characters between the marks of a literal come to: a backslash is left out and takes
the next character along. -/
def unescape : List Char → List Char
  | [] => []
  | c :: rest =>
    if c == '\\' then
      match rest with
      | [] => []
      | d :: after => d :: unescape after
    else c :: unescape rest

/-- The text that a word stands for if it is a string literal, which has both its marks. -/
def literalText? : List Char → Option String
  | '"' :: rest => some (String.ofList (unescape rest.dropLast))
  | _ => none

/-- The string that a word contributes to an expression: the text of the cell that it names, or the
text that it stands for itself. -/
def contribution? (cells : Cells) (word : List Char) : Option String :=
  match Address.ofLabel? word with
  | none => literalText? word
  | some a =>
    match cells a with
    | .text t => some t
    | _ => none

/-- The word if it is a string literal. -/
def literal? (word : List Char) : Option (List Char) :=
  if word.head? = some '"' then some word else none

theorem literal?_eq_none (hw : ∀ c ∈ w, c ≠ '"') : literal? w = none :=
  if_neg fun h => hw '"' (List.mem_of_mem_head? h) rfl

theorem literalText?_eq_none (hw : w.head? ≠ some '"') : literalText? w = none := by
  unfold literalText?
  split
  · exact absurd rfl hw
  · rfl

theorem bind_literal? (w : List Char) : (literal? w).bind literalText? = literalText? w := by
  rw [literal?]
  split
  · rfl
  · rename_i hw
    exact (literalText?_eq_none hw).symm

theorem StandsFor.unescape_eq (h : StandsFor inside content) : unescape inside = content := by
  induction h with
  | nil => rfl
  | plain hmark hescape h ih =>
    rw [unescape.eq_def]
    simp [hescape, ih]
  | escaped h ih =>
    rw [unescape.eq_def]
    simp [ih]

theorem StandsFor.literalText?_eq (h : StandsFor inside content) :
    literalText? ('"' :: (inside ++ ['"'])) = some (String.ofList content) := by
  rw [literalText?, List.dropLast_concat, h.unescape_eq]

theorem literalText?_encodeLiteral (text : List Char) :
    literalText? (encodeLiteral text) = some (String.ofList text) :=
  (standsFor_flatMap_encodeChar text).literalText?_eq

/-- With values in the place of references, each word is code still or a literal that ends where
the word does. -/
theorem cases_of_substituteWord (hwords : (w :: ws).IsChain Neighbours)
    (hw : (∀ c ∈ w, c ≠ '"') ∨ ∃ rest, w = '"' :: (literalSpan rest).1)
    (hvalue : ∀ a, Address.ofLabel? w = some a → IsOperand (cells a)) :
    (∀ c ∈ substituteWord cells w, c ≠ '"') ∨
      ∃ inside, substituteWord cells w = '"' :: inside ∧
        literalSpan (inside ++ ws.flatMap (substituteWord cells)) =
          (inside, ws.flatMap (substituteWord cells)) := by
  cases ha : Address.ofLabel? w with
  | some a =>
    rw [substituteWord_of_label ha]
    obtain ⟨t, ht⟩ | ⟨x, hx⟩ := hvalue a ha
    · refine .inr ⟨t.toList.flatMap encodeChar ++ ['"'], by rw [ht]; rfl, ?_⟩
      rw [List.append_assoc, List.singleton_append]
      exact (standsFor_flatMap_encodeChar _).literalSpan_append _
    · rw [hx]
      exact .inl fun c => ne_mark_of_mem_displayChars
  | none =>
    rw [substituteWord_of_none ha]
    refine hw.imp_right ?_
    rintro ⟨rest, rfl⟩
    refine ⟨_, rfl, ?_⟩
    cases ws with
    | nil => rw [List.flatMap_nil, List.append_nil, literalSpan_literalSpan]
    | cons w' ws =>
      -- the literal is closed, since code goes on behind it
      have hcode : Position.literal.afterAll (literalSpan rest).1 = .code :=
        ((List.isChain_cons_cons.1 hwords).1).code
      obtain ⟨span, later, hspan, -, hmore⟩ := Position.exists_literalSpan hcode
      have hself := hmore []
      rw [List.append_nil, List.append_nil, literalSpan_literalSpan] at hself
      obtain ⟨rfl, rfl⟩ := Prod.mk.inj hself
      exact hmore _

/-- The literals of an expression after substitution, word by word. -/
theorem map_literalsFrom_substitute (hwords : ws.IsChain Neighbours)
    (hws : ∀ w ∈ ws, (∀ c ∈ w, c ≠ '"') ∨ ∃ rest, w = '"' :: (literalSpan rest).1)
    (hvalues : ∀ w ∈ ws, ∀ a, Address.ofLabel? w = some a → IsOperand (cells a)) (n : Nat) :
    (literalsFrom n (segments (ws.flatMap (substituteWord cells)))).map Prod.snd =
      ws.filterMap fun w => literal? (substituteWord cells w) := by
  induction ws generalizing n with
  | nil =>
    rw [List.flatMap_nil, segments]
    rfl
  | cons w ws ih =>
    obtain ⟨hw, hws⟩ := List.forall_mem_cons.1 hws
    obtain ⟨hvalue, hvalues⟩ := List.forall_mem_cons.1 hvalues
    have hrest := ih (List.isChain_cons.1 hwords).2 hws hvalues
    rw [List.flatMap_cons]
    rcases cases_of_substituteWord hwords hw hvalue with hcode | ⟨inside, hliteral, hspan⟩
    · rw [literalsFrom_append hcode, hrest]
      exact (List.filterMap_cons_none (f := fun w => literal? (substituteWord cells w))
        (literal?_eq_none hcode)).symm
    · rw [hliteral, List.cons_append, literalsFrom_mark, hspan, List.map_cons, hrest]
      refine (List.filterMap_cons_some ?_).symm
      rw [hliteral]
      rfl

/-- What a word contributes is what stands in its place, if this is a literal. -/
theorem contribution?_eq (hvalue : ∀ a, Address.ofLabel? w = some a → IsOperand (cells a)) :
    contribution? cells w = literalText? (substituteWord cells w) := by
  rw [contribution?, substituteWord]
  cases ha : Address.ofLabel? w with
  | none => rfl
  | some a =>
    obtain ⟨t, ht⟩ | ⟨x, hx⟩ := hvalue a ha
    · simp only [ht, valueLiteral_text, literalText?_encodeLiteral, String.ofList_toList]
    · have hmark : (Decimal.displayChars x).head? ≠ some '"' := fun h =>
        ne_mark_of_mem_displayChars (List.mem_of_mem_head? h) rfl
      simp only [hx, valueLiteral, literalText?_eq_none hmark]

/-- The string that a token is. -/
def stringOf? : Token → Option String
  | .text s => some s
  | _ => none

/-- A lexeme is the string that its characters stand for. -/
theorem stringOf?_of_isWritten {l : Lexeme} {n : Nat} (hl : l.IsWritten) :
    stringOf? l.token = (stringSpan? (n, l)).bind fun x => literalText? x.2 := by
  cases hl with
  | symbol hc =>
    rw [stringSpan?_symbol hc]
    unfold Token.ofChar? at hc
    split at hc <;> · cases hc <;> rfl
  | text h => exact h.literalText?_eq.symm
  | number => rfl

/-- **The strings of an expression** over texts and numbers are the literals in it and the texts of
the cells that it refers to, in order. -/
theorem strings_substitute (hvalues : ∀ a ∈ references body, IsOperand (cells a))
    (hts : tokens (substitute cells body) = .ok ts) :
    ts.filterMap stringOf? = (words body).filterMap (contribution? cells) := by
  have hoperand (w : List Char) (hw : w ∈ words body) (a : Address)
      (ha : Address.ofLabel? w = some a) : IsOperand (cells a) :=
    hvalues a (mem_references_of_mem_words hw ha)
  obtain ⟨found, hfound, rfl⟩ := Except.map_eq_ok_iff.1 hts
  obtain ⟨placed, rfl, hlaid⟩ := exists_laid hfound 0
  have hliterals : (stringSpans placed).map Prod.snd =
      (words body).filterMap fun w => literal? (substituteWord cells w) := by
    rw [← literalsFrom_of_laid hlaid, substitute_eq_flatMap_words]
    exact map_literalsFrom_substitute (isChain_words body) (fun w => cases_of_mem_words) hoperand 0
  calc ((placed.map Prod.snd).map Lexeme.token).filterMap stringOf?
      = ((stringSpans placed).map Prod.snd).filterMap literalText? := by
        rw [List.filterMap_map, List.filterMap_map, List.filterMap_map, stringSpans,
          List.filterMap_filterMap]
        exact List.filterMap_congr fun x hx => stringOf?_of_isWritten (hlaid.isWritten x hx)
    _ = (words body).filterMap fun w => literalText? (substituteWord cells w) := by
        rw [hliterals, List.filterMap_filterMap]
        exact List.filterMap_congr fun w _ => bind_literal? _
    _ = (words body).filterMap (contribution? cells) :=
        List.filterMap_congr fun w hw => (contribution?_eq (hoperand w hw)).symm

/-! ## A text in parentheses -/

/-- What starts with a parenthesis is an expression. -/
theorem Entry.ofBody_openParen (rest : List Char) :
    Entry.ofBody ('(' :: rest) = .expression (String.ofList ('(' :: rest)) := by
  have hlabel : Address.isLabelShaped ('(' :: rest) = false := by
    by_contra hshape
    exact absurd (Address.isAlphanum_of_mem (by simpa using hshape) List.mem_cons_self) (by decide)
  have hrange : Range.isRangeShaped ('(' :: rest) = false := by
    by_contra hshape
    exact absurd (Range.isAlphanum_or_of_mem (by simpa using hshape) List.mem_cons_self)
      (by decide)
  have hcall : call? ('(' :: rest) = none := by
    rw [Option.eq_none_iff_forall_ne_some]
    rintro ⟨letters, list⟩ h
    obtain ⟨hbody, hne, hletters, -⟩ := call?_eq_some_iff.1 h
    obtain ⟨c, letters, rfl⟩ := List.exists_cons_of_ne_nil hne
    obtain ⟨rfl, -⟩ := List.cons.inj hbody
    exact absurd (hletters _ List.mem_cons_self) (by decide)
  rw [Entry.ofBody, if_neg (by simp [hlabel]), if_neg (by simp [hrange]), hcall]

/-- The words of a label in parentheses. -/
theorem words_parenthesized (ha : Address.ofLabel? w = some a) :
    words ('(' :: (w ++ [')'])) = [['('], w, [')']] := by
  have hlabel := Address.isLabelShaped_of_ofLabel? ha
  have hcode : ∀ c ∈ w ++ [')'], c ≠ '"' := by
    intro c hc
    rcases List.mem_append.1 hc with hc | hc
    · rintro rfl
      exact absurd (Address.isAlphanum_of_mem hlabel hc) (by decide)
    · rw [List.mem_singleton.1 hc]
      decide
  have hall := isCodeChar_of_forall hcode
  rw [words_code (by decide), List.takeWhile_eq_self_iff.2 hall, List.dropWhile_eq_nil_iff.2 hall,
    words_nil, List.append_nil, pieces_cons_of_not (by decide), pieces_append_cons (by decide),
    pieces_label hlabel, pieces_nil]
  rfl

/-- A string in parentheses is read as itself. -/
theorem read_parenthesized (s : String) :
    read [.openParen, .text s, .closeParen] = .text s := by
  let p : Phrase (.chain .sum) :=
    .single (.single (.plain (.parenthesized (.single (.single (.plain (.text s)))))))
  have hdepth : p.depth ≤ depthLimit := Nat.le_of_ble_eq_true rfl
  exact read_tokens p hdepth

/-- **A reference in parentheses** to a text comes to the text. -/
theorem evaluate_parenthesized {label : String} (ha : Address.ofLabel? label.toList = some a)
    (ht : cells a = .text t) : evaluate registry cells ("=(" ++ label ++ ")") = .text t := by
  let body := '(' :: (label.toList ++ [')'])
  have hwords : words body = [['('], label.toList, [')']] := words_parenthesized ha
  have hnone (c : Char) : Address.ofLabel? [c] = none := by
    simp [Address.ofLabel?, Address.isLabelShaped_singleton]
  have hvalues : ∀ b ∈ references body, IsOperand (cells b) := by
    intro b hb
    obtain ⟨w, hw, hwb⟩ := exists_mem_words hb
    rw [hwords] at hw
    simp only [List.mem_cons, List.not_mem_nil, or_false] at hw
    rcases hw with rfl | rfl | rfl
    · simp [hnone] at hwb
    · exact .inl ⟨t, Option.some.inj (hwb.symm.trans ha) ▸ ht⟩
    · simp [hnone] at hwb
  have htokens : tokens? (substitute cells body) = some [.openParen, .text t, .closeParen] := by
    have hsymbol {c : Char} {t : Token} (hc : Token.ofChar? c = some t)
        (hblank : Text.isBlank c = false) : tokens? ([[c]].flatMap (substituteWord cells)) =
          some [t] := by
      rw [List.flatMap_singleton, substituteWord_of_none (hnone c), tokens?_symbol hc hblank,
        tokens?_nil]
      rfl
    have hbody : words body = [['(']] ++ label.toList :: [[')']] := hwords
    rw [tokens?_substitute_text hvalues hbody ha ht, hsymbol rfl (by decide),
      hsymbol rfl (by decide)]
    rfl
  have htext : ("=(" ++ label ++ ")").toList = '=' :: body := by
    simp [body]
  have hform : Entry.ofText ("=(" ++ label ++ ")") = .expression (String.ofList body) := by
    rw [Entry.ofText, htext]
    exact Entry.ofBody_openParen _
  rw [evaluate, hform, Entry.value, String.toList_ofList, expressionValue_eq hvalues,
    toOption_evaluate, htokens, Option.bind_some, read_parenthesized]
  rfl

/-! ## Texts cannot change what an expression is -/

theorem tokens_valueLiteral (t : String) : tokens (valueLiteral (.text t)) = .ok [.text t] := by
  have h := tokens?_encodeLiteral t.toList []
  rw [List.append_nil, tokens?_nil, String.ofList_toList] at h
  exact tokens?_eq_some_iff.1 h

/-- **A text is one token of an expression.** The literal that is written for a text has the
backslashes in it replaced first and the marks second, and is read as one string, which is the text.
If an expression over texts and numbers can be read after substitution, then its strings are the
literals of the formula and the texts of its cells in order, and each reference to a text has become
one token between those of what stands in front of it and those of what stands behind it. In
particular a reference in parentheses comes to the text. -/
theorem text_value_is_one_token :
    (∀ t : String, valueLiteral (.text t) =
        '"' :: replaceAll ['"'] ['\\', '"'] (replaceAll ['\\'] ['\\', '\\'] t.toList) ++ ['"'] ∧
      tokens (valueLiteral (.text t)) = .ok [.text t]) ∧
    (∀ (cells : Cells) (body : List Char) (ts : List Token),
      (∀ a ∈ references body, IsOperand (cells a)) → tokens (substitute cells body) = .ok ts →
        ts.filterMap stringOf? = (words body).filterMap (contribution? cells) ∧
        ∀ before w after a t, words body = before ++ w :: after → Address.ofLabel? w = some a →
          cells a = .text t → ∃ A B, tokens (before.flatMap (substituteWord cells)) = .ok A ∧
            tokens (after.flatMap (substituteWord cells)) = .ok B ∧ ts = A ++ .text t :: B) ∧
    ∀ (registry : Registry) (cells : Cells) (label : String) (a : Address) (t : String),
      Address.ofLabel? label.toList = some a → cells a = .text t →
        evaluate registry cells ("=(" ++ label ++ ")") = .text t := by
  refine ⟨fun t => ⟨encodeLiteral_eq_replaceAll _, tokens_valueLiteral t⟩,
    fun cells body ts hvalues hts => ?_, fun _ _ _ _ _ => evaluate_parenthesized⟩
  refine ⟨strings_substitute hvalues hts, fun before w after a t hbody ha ht => ?_⟩
  rw [← tokens?_eq_some_iff, tokens?_substitute_text hvalues hbody ha ht] at hts
  obtain ⟨A, R, hA, hR, rfl⟩ := exists_of_joined hts
  obtain ⟨T, B, hT, hB, rfl⟩ := exists_of_joined hR
  cases hT
  exact ⟨A, B, tokens?_eq_some_iff.1 hA, tokens?_eq_some_iff.1 hB, rfl⟩

/-- A text with a mark, an operator, a label and a backslash at its end, in front of a number. -/
theorem text_value_is_one_token_of_escaped :
    let cells : Cells := fun a => if a = ⟨0, 0⟩ then .text "\"+B1\\" else .number 2
    let body := "(A1)*B1".toList
    Entry.ofText "=(A1)*B1" = .expression "(A1)*B1" ∧
      (∃ ts, tokens (substitute cells body) = .ok ts ∧ ts.filterMap stringOf? = ["\"+B1\\"] ∧
        ∃ A B, tokens "(".toList = .ok A ∧ tokens ")*2".toList = .ok B ∧
          ts = A ++ .text "\"+B1\\" :: B) ∧
      evaluate .empty cells "=(A1)" = .text "\"+B1\\" := by
  intro cells body
  have hlabel : Address.ofLabel? "A1".toList = some ⟨0, 0⟩ := by decide +kernel
  have hvalues : ∀ a ∈ references body, IsOperand (cells a) := by
    intro a _
    by_cases ha : a = ⟨0, 0⟩
    · exact .inl ⟨"\"+B1\\", by simp [cells, ha]⟩
    · exact .inr ⟨2, by simp [cells, ha]⟩
  have hts : tokens (substitute cells body) =
      .ok [.openParen, .text "\"+B1\\", .closeParen, .times, .number 2] := by decide +kernel
  have hbody : words body =
      ["(".toList] ++ "A1".toList :: [")".toList, "*".toList, "B1".toList] := by
    decide +kernel
  obtain ⟨-, hsubstitute, hevaluate⟩ := text_value_is_one_token
  obtain ⟨hstrings, hsplit⟩ := hsubstitute cells body _ hvalues hts
  have hbefore : ["(".toList].flatMap (substituteWord cells) = "(".toList := by decide +kernel
  have hafter : [")".toList, "*".toList, "B1".toList].flatMap (substituteWord cells) =
      ")*2".toList := by decide +kernel
  have hbetween := hsplit _ _ _ _ _ hbody hlabel rfl
  rw [hbefore, hafter] at hbetween
  exact ⟨by decide +kernel, ⟨_, hts, rfl, hbetween⟩, hevaluate .empty cells "A1" _ _ hlabel rfl⟩

end Spreadsheet.Formula
