import Mathlib.Data.List.Chain
import Spreadsheet.Proofs.Expression.Reading
import Spreadsheet.Proofs.Expression.Tokens
import Spreadsheet.Proofs.Formula.Position

/-!
# Tokens of texts that are put together

A text is read block by block: blanks, symbols, string literals and numbers. All of them but numbers
end at a mark of their own, so that two texts can be read one after the other unless the second
goes on with a number at the end of the first.

* `Continues` says that it does. It is seen at the last two characters of the first text and the
  first character of the second.
* `block_induction` is the induction over the blocks of a text, and `tokens?_append` is what it
  proves. A blank always keeps texts apart (`tokens?_append_blank`).
* `toOption_evaluate_of_adjacent`: a text with two numbers next to each other is no expression.
-/

namespace Spreadsheet.Expression

open Formula (Position)

variable {c d p : Char} {u v w rest text : List Char} {A : List Token}

/-! ## Where numbers go on -/

theorem continuesNumber_congr {q : Char} (h : (p = 'e' ∨ p = 'E') ↔ q = 'e' ∨ q = 'E') (d : Char) :
    Token.continuesNumber p d = Token.continuesNumber q d := by
  have hmark : (p == 'e' || p == 'E') = (q == 'e' || q == 'E') := by
    rw [Bool.eq_iff_iff]
    simpa using h
  rw [Token.continuesNumber, hmark, Token.continuesNumber]

/-- A text that ends as a number can: with a digit, a point or an exponent mark, or with a sign
behind an exponent mark. -/
def endsNumber (text : List Char) : Bool :=
  text.getLast?.any fun c => Token.continuesNumber (text.dropLast.getLastD ' ') c

/-- The first character of one text continues the number at the end of another. -/
def Continues (u v : List Char) : Prop :=
  endsNumber u = true ∧ ∃ d ∈ v.head?, Token.continuesNumber (u.getLastD ' ') d = true

@[simp] theorem endsNumber_nil : endsNumber [] = false := rfl

theorem endsNumber_concat (u : List Char) (c : Char) :
    endsNumber (u ++ [c]) = Token.continuesNumber (u.getLastD ' ') c := by
  simp [endsNumber]

theorem not_continues_nil : ¬Continues u [] := by
  simp [Continues]

theorem not_continues_of_endsNumber (h : endsNumber u = false) : ¬Continues u v := by
  simp [Continues, h]

/-- A blank goes on with nothing but what any character goes on with. -/
theorem continuesNumber_of_blank (h : Token.continuesNumber ' ' d = true) (p : Char) :
    Token.continuesNumber p d = true := by
  simp_all [Token.continuesNumber]

theorem endsNumber_append (h : endsNumber v = true) : endsNumber (u ++ v) = true := by
  rcases List.eq_nil_or_concat v with rfl | ⟨v, d, rfl⟩
  · cases h
  · rw [List.concat_eq_append, endsNumber_concat] at h
    rw [List.concat_eq_append, ← List.append_assoc, endsNumber_concat]
    cases v with
    | nil => exact continuesNumber_of_blank h _
    | cons c v => rwa [getLastD_append (List.cons_ne_nil c v)]

theorem Continues.append (h : Continues v w) : Continues (u ++ v) w := by
  have hv : v ≠ [] := by
    rintro rfl
    cases h.1
  refine ⟨endsNumber_append h.1, ?_⟩
  rw [getLastD_append hv]
  exact h.2

/-- Only an exponent mark makes a difference for what comes behind it. -/
theorem endsNumber_of_append (hstop : ¬Continues u v) (hv : v ≠ [])
    (h : endsNumber (u ++ v) = true) : endsNumber v = true := by
  obtain ⟨v, d, rfl⟩ := (List.eq_nil_or_concat v).resolve_left hv
  rw [List.concat_eq_append, ← List.append_assoc, endsNumber_concat] at h
  rw [List.concat_eq_append, endsNumber_concat]
  cases v with
  | cons c v => rwa [getLastD_append (List.cons_ne_nil c v)] at h
  | nil =>
    rw [List.append_nil] at h
    by_contra hd
    refine hstop ⟨?_, d, rfl, h⟩
    rcases List.eq_nil_or_concat u with rfl | ⟨u, p, rfl⟩
    · exact absurd h hd
    · rw [List.concat_eq_append, endsNumber_concat]
      rw [List.concat_eq_append, List.getLastD_concat] at h
      have hp : p = 'e' ∨ p = 'E' := by
        by_contra hp
        have hmark : ¬(' ' = 'e' ∨ ' ' = 'E') := by decide
        exact hd (continuesNumber_congr (iff_of_false hp hmark) d ▸ h)
      rcases hp with rfl | rfl <;> simp [Token.continuesNumber]

theorem not_continuesNumber_of_isBlank (hc : Text.isBlank c = true) :
    Token.continuesNumber ' ' c = false := by
  have hall : ∀ n ∈ Text.blankCodes, Token.continuesNumber ' ' (Char.ofNat n) = false := by decide
  have hchar := hall c.toNat (Text.toNat_mem_blankCodes hc)
  rwa [Char.ofNat_toNat] at hchar

theorem not_continuesNumber_of_symbol {t : Token} (hc : Token.ofChar? c = some t) :
    Token.continuesNumber ' ' c = false := by
  unfold Token.ofChar? at hc
  split at hc <;> first | rfl | cases hc

/-- Whether a text ends as a number can is seen at its last two characters. -/
theorem endsNumber_append_congr (hv : v ≠ [])
    (h : ∀ d, Token.continuesNumber (u.getLastD ' ') d = Token.continuesNumber (w.getLastD ' ') d) :
    endsNumber (u ++ v) = endsNumber (w ++ v) := by
  obtain ⟨v, d, rfl⟩ := (List.eq_nil_or_concat v).resolve_left hv
  rw [List.concat_eq_append, ← List.append_assoc, ← List.append_assoc, endsNumber_concat,
    endsNumber_concat]
  cases v with
  | nil => rw [List.append_nil, List.append_nil, h]
  | cons c v => rw [getLastD_append (List.cons_ne_nil c v), getLastD_append (List.cons_ne_nil c v)]

theorem endsNumber_append_of_numberTail {t : List Char} (hu : endsNumber (u ++ [p]) = true)
    (ht : Token.numberTail p t = t) : endsNumber (u ++ p :: t) = true := by
  induction t generalizing u p with
  | nil => exact hu
  | cons d t ih =>
    obtain ⟨hd, ht⟩ := numberTail_cons_eq_self_iff.1 ht
    rw [List.append_cons]
    refine ih ?_ ht
    rw [endsNumber_concat]
    simpa using hd

/-! ## Blocks -/

/-- The front of a text that is read on its own, whatever the text goes on with. -/
structure IsBlock (b r : List Char) (found : Option (List Token)) : Prop where
  code : Position.code.afterAll r = .code
  stops : ¬Continues b r
  tokens (v : List Char) (hv : r = [] → ¬Continues b v) :
    tokens? (b ++ (r ++ v)) = joined found (tokens? (r ++ v))
  number (hb : endsNumber b = true) : ∀ A ∈ found, ∃ x, A.getLast? = some (.number x)

theorem IsBlock.of_endsNumber {b r : List Char} {found : Option (List Token)}
    (hb : endsNumber b = false) (hr : Position.code.afterAll r = .code)
    (hfound : ∀ v, tokens? (b ++ (r ++ v)) = joined found (tokens? (r ++ v))) :
    IsBlock b r found where
  code := hr
  stops := not_continues_of_endsNumber hb
  tokens v _ := hfound v
  number h := by simp [hb] at h

/-- A number is a block up to the first character that does not continue it. -/
theorem exists_number_block (hc : (c.isDigit || c == '.') = true)
    (hcode : Position.code.afterAll rest = .code) :
    ∃ b r found, c :: rest = b ++ r ∧ r.length ≤ rest.length ∧ IsBlock b r found := by
  obtain ⟨r, hr, hstop⟩ := exists_numberTail c rest
  have htail := numberTail_numberTail c rest
  generalize Token.numberTail c rest = t at hr hstop htail
  subst hr
  rw [Position.afterAll_append, (Position.afterAll_eq_code_iff (ne_mark_of_numberTail htail)).2 rfl]
    at hcode
  have hend : endsNumber (c :: t) = true := by
    refine endsNumber_append_of_numberTail (u := []) ?_ htail
    simp_all [endsNumber, Token.continuesNumber]
  refine ⟨c :: t, r, (Decimal.read? (c :: t)).map fun x => [.number x], rfl, by simp,
    hcode, ?_, fun v hv => ?_, fun _ A hA => ?_⟩
  · rintro ⟨-, d, hd, hcontinues⟩
    rw [hstop d hd] at hcontinues
    cases hcontinues
  · refine tokens?_number hc htail fun d hd => ?_
    cases r with
    | cons e r => exact hstop d hd
    | nil =>
      by_contra hcontinues
      exact hv rfl ⟨hend, d, hd, by simpa using hcontinues⟩
  · obtain ⟨x, -, rfl⟩ := Option.map_eq_some_iff.1 hA
    exact ⟨x, rfl⟩

/-- Every text starts with a block: a blank, a symbol, a literal, a number, or the whole text if it
cannot be read. -/
theorem exists_block (hcode : Position.code.afterAll (c :: rest) = .code) :
    ∃ b r found, c :: rest = b ++ r ∧ r.length ≤ rest.length ∧ IsBlock b r found := by
  by_cases hmark : c = '"'
  · subst hmark
    obtain ⟨inside, content, r, rfl, hinside, hr⟩ := Position.exists_literal hcode
    refine ⟨'"' :: (inside ++ ['"']), r, some [.text (String.ofList content)], by simp,
      by simp; omega, .of_endsNumber ?_ hr fun v => ?_⟩
    · rw [← List.cons_append, endsNumber_concat]
      simp [Token.continuesNumber]
    · have htokens : tokens? ('"' :: (inside ++ '"' :: (r ++ v))) =
          joined (some [.text (String.ofList content)]) (tokens? (r ++ v)) :=
        tokens?_literal hinside
      simpa using htokens
  have hrest : Position.code.afterAll rest = .code := by
    rw [Position.afterAll_cons] at hcode
    simpa [Position.after, hmark] using hcode
  have hsingle (found : Option (List Token)) (hc : Token.continuesNumber ' ' c = false)
      (hfound : ∀ v, tokens? (c :: (rest ++ v)) = joined found (tokens? (rest ++ v))) :
      ∃ b r found, c :: rest = b ++ r ∧ r.length ≤ rest.length ∧ IsBlock b r found :=
    ⟨[c], rest, found, rfl, Nat.le_refl _, .of_endsNumber (by simpa [endsNumber] using hc) hrest
      hfound⟩
  cases hblank : Text.isBlank c with
  | true =>
    refine hsingle (some []) (not_continuesNumber_of_isBlank hblank) fun v => ?_
    rw [tokens?_blank hblank, nil_joined]
  | false =>
    cases hsymbol : Token.ofChar? c with
    | some t =>
      exact hsingle (some [t]) (not_continuesNumber_of_symbol hsymbol) fun v =>
        tokens?_symbol hsymbol hblank
    | none =>
      cases hnumber : c.isDigit || c == '.' with
      | false =>
        refine ⟨c :: rest, [], none, by simp, by simp, rfl, not_continues_nil, fun v _ => ?_,
          by simp⟩
        exact tokens?_other hblank hsymbol hmark hnumber
      | true => exact exists_number_block hnumber hrest

/-- Induction over the blocks of a text that ends outside string literals. -/
theorem block_induction {P : (text : List Char) → Position.code.afterAll text = .code → Prop}
    (nil : P [] rfl)
    (block : ∀ b r found (hb : IsBlock b r found) (hcode : Position.code.afterAll (b ++ r) = .code),
      P r hb.code → P (b ++ r) hcode)
    (text : List Char) (hcode : Position.code.afterAll text = .code) : P text hcode := by
  match text with
  | [] => exact nil
  | c :: rest =>
    obtain ⟨b, r, found, htext, hlength, hb⟩ := exists_block hcode
    have hrest := block_induction nil block r hb.code
    simp only [htext]
    exact block b r found hb _ hrest
termination_by text.length
decreasing_by exact Nat.lt_succ_of_le hlength

/-- The tokens of a block and of what follows it. -/
theorem IsBlock.tokens?_eq {b r : List Char} {found : Option (List Token)}
    (hb : IsBlock b r found) : tokens? (b ++ r) = joined found (tokens? r) := by
  have h := hb.tokens [] fun _ => not_continues_nil
  rwa [List.append_nil] at h

/-! ## Putting texts together -/

/-- **Texts are read one after the other** if the second does not go on with a number at the end of
the first, which has to end outside string literals. -/
theorem tokens?_append (hcode : Position.code.afterAll u = .code) (h : ¬Continues u v) :
    tokens? (u ++ v) = joined (tokens? u) (tokens? v) := by
  induction u, hcode using block_induction with
  | nil => simp
  | block b r found hb _ ih =>
    rw [List.append_assoc, hb.tokens v fun hr => by simpa [hr] using h, ih fun hr => h hr.append,
      hb.tokens?_eq, joined_assoc]

/-- A blank keeps texts apart. -/
theorem tokens?_append_blank (hcode : Position.code.afterAll u = .code) (v : List Char) :
    tokens? (u ++ ' ' :: v) = joined (tokens? u) (tokens? v) := by
  rw [tokens?_append hcode, tokens?_blank (by decide)]
  rintro ⟨-, d, hd, hcontinues⟩
  obtain rfl : ' ' = d := by simpa using hd
  simp [Token.continuesNumber] at hcontinues

/-- A blank makes no difference where nothing is continued. -/
theorem tokens?_insert_blank (hcode : Position.code.afterAll u = .code) (h : ¬Continues u v) :
    tokens? (u ++ v) = tokens? (u ++ ' ' :: v) := by
  rw [tokens?_append hcode h, tokens?_append_blank hcode]

/-- A text that ends as a number can has a number as its last token. -/
theorem getLast?_of_endsNumber (hcode : Position.code.afterAll u = .code)
    (hend : endsNumber u = true) (hu : tokens? u = some A) :
    ∃ x, A.getLast? = some (.number x) := by
  induction u, hcode using block_induction generalizing A with
  | nil => cases hend
  | block b r found hb _ ih =>
    rw [hb.tokens?_eq] at hu
    obtain ⟨F, R, hF, hR, rfl⟩ := exists_of_joined hu
    by_cases hr : r = []
    · subst hr
      rw [tokens?_nil, Option.some.injEq] at hR
      rw [List.append_nil] at hend
      rw [← hR, List.append_nil]
      exact hb.number hend F hF
    · obtain ⟨x, hx⟩ := ih (endsNumber_of_append hb.stops hr hend) hR
      exact ⟨x, by rw [List.getLast?_append, hx]; rfl⟩

/-- A text that starts with a digit or a point has a number as its first token. -/
theorem head?_of_startsNumber (hc : (c.isDigit || c == '.') = true)
    (h : tokens? (c :: rest) = some A) : ∃ x, A.head? = some (.number x) := by
  obtain ⟨r, hr, hstop⟩ := exists_numberTail c rest
  rw [hr, tokens?_number hc (numberTail_numberTail c rest) hstop] at h
  obtain ⟨F, R, hF, -, rfl⟩ := exists_of_joined h
  obtain ⟨x, -, rfl⟩ := Option.map_eq_some_iff.1 hF
  exact ⟨x, rfl⟩

/-! ## Adjacent numbers -/

/-- Whether a token is a number. -/
def Token.IsNumber : Token → Prop
  | number _ => True
  | _ => False

theorem Operator.not_isNumber_token (operator : Operator) : ¬operator.token.IsNumber := by
  cases operator <;> exact id

theorem Sign.not_isNumber_token (sign : Sign) : ¬sign.token.IsNumber := by
  cases sign <;> exact id

/-- No number follows another one in an expression. -/
theorem Phrase.isChain_tokens {s : Symbol} (p : Phrase s) :
    p.tokens.IsChain fun t t' => t.IsNumber → ¬t'.IsNumber := by
  have around {t : Token} (ht : ¬t.IsNumber) {ts : List Token}
      (hts : ts.IsChain fun t t' => t.IsNumber → ¬t'.IsNumber) :
      (t :: ts).IsChain fun t t' => t.IsNumber → ¬t'.IsNumber :=
    List.isChain_cons.2 ⟨fun _ _ h => absurd h ht, hts⟩
  induction p with
  | number x => exact .singleton _
  | text s => exact .singleton _
  | parenthesized inner ih =>
    refine around id (List.isChain_append.2 ⟨ih, .singleton _, fun t _ t' ht' _ => ?_⟩)
    obtain rfl : Token.closeParen = t' := by simpa using ht'
    exact id
  | plain atom ih => exact ih
  | signed sign operand ih => exact around sign.not_isNumber_token ih
  | single part ih => exact ih
  | longer part operator hlevel more ihpart ihmore =>
    have hoperator := operator.not_isNumber_token
    refine List.isChain_append.2 ⟨ihpart, around hoperator ihmore, fun t _ t' ht' _ => ?_⟩
    obtain rfl : operator.token = t' := by simpa using ht'
    exact hoperator

/-- What a text evaluates to depends on its tokens only, errors apart. -/
theorem toOption_evaluate (text : List Char) :
    (evaluate text).toOption =
      (tokens? text).bind fun ts => ((read ts).eval.bind Operand.toValue).toOption :=
  Except.toOption_bind

/-- A text with two numbers next to each other is no expression. -/
theorem toOption_evaluate_of_adjacent {a b : Option (List Token)}
    (htext : tokens? text = joined a b) (ha : ∀ A ∈ a, ∃ x, A.getLast? = some (.number x))
    (hb : ∀ B ∈ b, ∃ y, B.head? = some (.number y)) : (evaluate text).toOption = none := by
  cases hevaluate : evaluate text with
  | error e => rfl
  | ok v =>
    obtain ⟨p, hp, -⟩ := hasValue_of_evaluate hevaluate
    rw [tokens?, hp] at htext
    obtain ⟨A, B, hA, hB, htokens⟩ := exists_of_joined htext.symm
    obtain ⟨x, hx⟩ := ha A hA
    obtain ⟨y, hy⟩ := hb B hB
    have hchain := p.isChain_tokens
    rw [← htokens, List.isChain_append] at hchain
    exact absurd trivial (hchain.2.2 _ hx _ hy trivial)

end Spreadsheet.Expression
