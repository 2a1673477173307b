import Mathlib.Data.Option.NAry
import Spreadsheet.Proofs.Decimal.Digits
import Spreadsheet.Proofs.Except
import Spreadsheet.Proofs.Formula.Literal

/-!
# Tokens without offsets

Where a text starts matters to the errors in it, and only to them.

* `tokens?` is the list of tokens of a text that can be read. It is found from the front of the
  text: `tokens?_blank`, `tokens?_symbol`, `tokens?_literal`, `tokens?_number` and `tokens?_other`
  go over what the text can start with.
* `numberTail_append`: a number ends where the next character does not continue it.
-/

namespace Spreadsheet.Expression

open Formula (StandsFor)

variable {c d p : Char} {u v rest : List Char} {ts : List Token}

/-- The tokens of a text, if it can be read. -/
def tokens? (text : List Char) : Option (List Token) :=
  (tokens text).toOption

theorem tokens?_eq_some_iff {text : List Char} : tokens? text = some ts ↔ tokens text = .ok ts := by
  rw [tokens?]
  cases tokens text <;> simp [Except.toOption]

/-- The tokens of two texts one after the other, if both can be read. -/
def joined (a b : Option (List Token)) : Option (List Token) :=
  Option.map₂ (· ++ ·) a b

theorem joined_assoc (a b c : Option (List Token)) :
    joined (joined a b) c = joined a (joined b c) :=
  Option.map₂_assoc List.append_assoc

@[simp] theorem nil_joined (a : Option (List Token)) : joined (some []) a = a := by
  cases a <;> simp [joined]

theorem exists_of_joined {a b : Option (List Token)} (h : joined a b = some ts) :
    ∃ A B, a = some A ∧ b = some B ∧ A ++ B = ts := by
  obtain ⟨A, B, hA, hB, hts⟩ := Option.map₂_eq_some_iff.1 h
  exact ⟨A, B, hA, hB, hts⟩

/-! ## The first lexeme -/

theorem toOption_starting (m n : Nat) (c : Char) (rest : List Char) :
    (Lexeme.starting m c rest).toOption = (Lexeme.starting n c rest).toOption := by
  unfold Lexeme.starting
  split
  · rfl
  · split
    · rfl
    · split <;> rfl

/-- One step of reading, errors apart. -/
theorem toOption_lexemesFrom_cons (hblank : Text.isBlank c = false) (n : Nat) (rest : List Char) :
    ∃ k : Lexeme → Nat, (lexemesFrom n (c :: rest)).toOption =
      (Lexeme.starting 0 c rest).toOption.bind fun lexeme =>
        (lexemesFrom (k lexeme) (rest.drop (lexeme.source.length - 1))).toOption.map
          (lexeme :: ·) := by
  refine ⟨fun lexeme => n + byteLength lexeme.source, ?_⟩
  rw [toOption_starting 0 n, lexemesFrom, if_neg (by simp [hblank])]
  cases Lexeme.starting n c rest with
  | error e => rfl
  | ok lexeme => exact Except.toOption_map

/-- Where a text starts matters to errors only. -/
theorem toOption_lexemesFrom (m n : Nat) (text : List Char) :
    (lexemesFrom m text).toOption = (lexemesFrom n text).toOption := by
  match text with
  | [] => rw [lexemesFrom, lexemesFrom]
  | c :: rest =>
    cases hblank : Text.isBlank c with
    | true =>
      rw [lexemesFrom, lexemesFrom, if_pos hblank, if_pos hblank]
      exact toOption_lexemesFrom _ _ rest
    | false =>
      obtain ⟨k, hk⟩ := toOption_lexemesFrom_cons hblank m rest
      obtain ⟨l, hl⟩ := toOption_lexemesFrom_cons hblank n rest
      rw [hk, hl]
      refine Option.bind_congr fun lexeme _ => ?_
      rw [toOption_lexemesFrom (k lexeme) (l lexeme)]
termination_by text.length
decreasing_by
  all_goals
    simp only [List.length_cons, List.length_drop]
    omega

@[simp] theorem tokens?_nil : tokens? [] = some [] := by
  simp [tokens?, tokens, lexemes, lexemesFrom, Except.map, Except.toOption]

theorem tokens?_eq (n : Nat) (text : List Char) :
    tokens? text = (lexemesFrom n text).toOption.map fun found => found.map Lexeme.token := by
  rw [tokens?, tokens, Except.toOption_map, lexemes, toOption_lexemesFrom 0 n]

theorem tokens?_blank (hc : Text.isBlank c = true) : tokens? (c :: rest) = tokens? rest := by
  rw [tokens?_eq 0, tokens?_eq (0 + c.utf8Size), lexemesFrom, if_pos hc]

theorem tokens?_cons (hc : Text.isBlank c = false) :
    tokens? (c :: rest) = (Lexeme.starting 0 c rest).toOption.bind fun lexeme =>
      (tokens? (rest.drop (lexeme.source.length - 1))).map (lexeme.token :: ·) := by
  obtain ⟨k, hk⟩ := toOption_lexemesFrom_cons hc 0 rest
  rw [tokens?_eq 0, hk, Option.map_bind]
  refine Option.bind_congr fun lexeme _ => ?_
  rw [tokens?_eq (k lexeme), Option.map_map, Function.comp_apply, Option.map_map]
  rfl

/-- A text that starts with a lexeme. -/
theorem tokens?_of_lexeme {t : Token} {source : List Char} (hc : Text.isBlank c = false)
    (hstart : Lexeme.starting 0 c (source ++ rest) = .ok ⟨t, c :: source⟩) :
    tokens? (c :: (source ++ rest)) = joined (some [t]) (tokens? rest) := by
  rw [tokens?_cons hc, hstart]
  simp only [Except.toOption, Option.bind_some, List.length_cons, Nat.add_sub_cancel,
    List.drop_left]
  cases tokens? rest <;> rfl

/-- A text that starts with no lexeme. -/
theorem tokens?_of_fault {e : ExpressionError} (hc : Text.isBlank c = false)
    (hstart : Lexeme.starting 0 c rest = .error e) : tokens? (c :: rest) = none := by
  rw [tokens?_cons hc, hstart]
  rfl

theorem tokens?_symbol {t : Token} (hc : Token.ofChar? c = some t)
    (hblank : Text.isBlank c = false) : tokens? (c :: rest) = joined (some [t]) (tokens? rest) := by
  have hstart : Lexeme.starting 0 c ([] ++ rest) = .ok ⟨t, [c]⟩ := by
    rw [Lexeme.starting, hc]
  exact tokens?_of_lexeme hblank hstart

theorem tokens?_literal {inside content : List Char} (h : StandsFor inside content) :
    tokens? ('"' :: (inside ++ '"' :: rest)) =
      joined (some [.text (String.ofList content)]) (tokens? rest) := by
  rw [List.append_cons]
  refine tokens?_of_lexeme (by decide) ?_
  exact Lexeme.ofLiteral_eq_ok_iff.2 ⟨inside, content, rest, (List.append_cons ..).symm, h, rfl⟩

theorem tokens?_other (hblank : Text.isBlank c = false) (hsymbol : Token.ofChar? c = none)
    (hmark : c ≠ '"') (hnumber : (c.isDigit || c == '.') = false) : tokens? (c :: rest) = none := by
  refine tokens?_of_fault (e := .unexpectedCharacter c 0) hblank ?_
  rw [Lexeme.starting, hsymbol]
  simp [hmark, hnumber]

/-! ## Numbers -/

/-- What a character is not if it can start a number. -/
theorem of_startsNumber (hc : (c.isDigit || c == '.') = true) :
    Text.isBlank c = false ∧ Token.ofChar? c = none ∧ c ≠ '"' := by
  have hall : ∀ n ∈ 46 :: List.range' 48 10, Text.isBlank (Char.ofNat n) = false ∧
      Token.ofChar? (Char.ofNat n) = none ∧ Char.ofNat n ≠ '"' := by decide
  have hmem : c.toNat ∈ 46 :: List.range' 48 10 := by
    rw [Bool.or_eq_true, beq_iff_eq] at hc
    rcases hc with hdigit | rfl
    · have := Decimal.toNat_of_isDigit hdigit
      exact List.mem_cons_of_mem _ (List.mem_range'_1.2 (by omega))
    · exact List.mem_cons_self
  have hchar := hall c.toNat hmem
  rwa [Char.ofNat_toNat] at hchar

theorem numberTail_cons_eq_self_iff {t : List Char} :
    Token.numberTail p (d :: t) = d :: t ↔
      Token.continuesNumber p d = true ∧ Token.numberTail d t = t := by
  rw [Token.numberTail]
  split <;> simp_all

theorem numberTail_numberTail (p : Char) (text : List Char) :
    Token.numberTail p (Token.numberTail p text) = Token.numberTail p text := by
  induction text generalizing p with
  | nil => rfl
  | cons d text ih =>
    rw [Token.numberTail]
    split
    · exact numberTail_cons_eq_self_iff.2 ⟨‹_›, ih d⟩
    · rfl

theorem getLastD_append (hv : v ≠ []) : (u ++ v).getLastD c = v.getLastD c := by
  obtain ⟨v, d, rfl⟩ := List.eq_nil_or_concat v |>.resolve_left hv
  simp [← List.append_assoc]

/-- A number goes on as long as it can. -/
theorem exists_numberTail (p : Char) (text : List Char) :
    ∃ rest, text = Token.numberTail p text ++ rest ∧
      ∀ d ∈ rest.head?,
        Token.continuesNumber ((p :: Token.numberTail p text).getLastD ' ') d = false := by
  induction text generalizing p with
  | nil => exact ⟨[], rfl, by simp⟩
  | cons d text ih =>
    rw [Token.numberTail]
    split
    · obtain ⟨rest, htext, hrest⟩ := ih d
      refine ⟨rest, congrArg (d :: ·) htext, ?_⟩
      simpa using hrest
    · exact ⟨d :: text, rfl, by simp_all⟩

/-- A number that is not continued ends where it did. -/
theorem numberTail_append {t : List Char} (ht : Token.numberTail p t = t)
    (hv : ∀ d ∈ v.head?, Token.continuesNumber ((p :: t).getLastD ' ') d = false) :
    Token.numberTail p (t ++ v) = t := by
  induction t generalizing p with
  | nil =>
    cases v with
    | nil => rfl
    | cons d v =>
      have hd : Token.continuesNumber p d = false := hv d rfl
      simp [Token.numberTail, hd]
  | cons d t ih =>
    obtain ⟨hd, ht⟩ := numberTail_cons_eq_self_iff.1 ht
    rw [List.cons_append, Token.numberTail, if_pos hd, ih ht (by simpa using hv)]

theorem ne_mark_of_numberTail {t : List Char} (ht : Token.numberTail p t = t) :
    ∀ d ∈ t, d ≠ '"' := by
  induction t generalizing p with
  | nil => simp
  | cons d t ih =>
    obtain ⟨hd, ht⟩ := numberTail_cons_eq_self_iff.1 ht
    refine List.forall_mem_cons.2 ⟨?_, ih ht⟩
    rintro rfl
    exact absurd hd (by simp [Token.continuesNumber])

/-- A number whose end is known. -/
theorem tokens?_number {t : List Char} (hc : (c.isDigit || c == '.') = true)
    (ht : Token.numberTail c t = t)
    (hrest : ∀ d ∈ rest.head?, Token.continuesNumber ((c :: t).getLastD ' ') d = false) :
    tokens? (c :: (t ++ rest)) =
      joined ((Decimal.read? (c :: t)).map fun x => [.number x]) (tokens? rest) := by
  obtain ⟨hblank, hsymbol, hmark⟩ := of_startsNumber hc
  have hstart : Lexeme.starting 0 c (t ++ rest) = Lexeme.ofNumber c (t ++ rest) := by
    rw [Lexeme.starting, hsymbol]
    simp [hmark, hc]
  rw [Lexeme.ofNumber, numberTail_append ht hrest] at hstart
  cases hread : Decimal.read? (c :: t) with
  | none =>
    simp only [hread] at hstart
    exact tokens?_of_fault hblank hstart
  | some x =>
    simp only [hread] at hstart
    exact tokens?_of_lexeme hblank hstart

end Spreadsheet.Expression
