import Spreadsheet.Expression.Reading

/-!
# The grammar of expressions

```text
sum     := product (('+' | '-') product)*
product := operand (('*' | '/') operand)*
operand := ('+' | '-') operand | atom
atom    := NUMBER | STRING | '(' sum ')'
```

* A `Phrase` is a derivation from one symbol of the grammar; `Phrase.tokens` is what it derives.
* `Phrase.tree` is its meaning as a tree, in which operators of one level associate to the left.
* `Phrase.depth` is the number of parentheses and signs around its deepest atom.
* `Phrase.eq_of_tokens_append`: the grammar is unambiguous. A phrase is determined by any list of
  tokens that starts with it and in which no operator takes it up.
-/

namespace Spreadsheet.Expression

/-! ## Symbols -/

/-- The levels of operators between operands. -/
inductive Level
  | sum
  | product

/-- The level of an operator. -/
def Operator.level : Operator → Level
  | add | subtract => .sum
  | multiply | divide => .product

/-- The token that writes an operator. -/
def Operator.token : Operator → Token
  | add => .plus
  | subtract => .minus
  | multiply => .times
  | divide => .divide

/-- The token that writes a sign. -/
def Sign.token : Sign → Token
  | plus => .plus
  | minus => .minus

theorem Operator.token_injective : Function.Injective Operator.token := by
  intro a b h
  cases a <;> cases b <;> first | rfl | cases h

theorem Sign.token_injective : Function.Injective Sign.token := by
  intro a b h
  cases a <;> cases b <;> first | rfl | cases h

/-- The operator of a level that a token writes. -/
def Level.operator? : Level → Token → Option Operator
  | sum => sumOperator?
  | product => productOperator?

theorem Level.operator?_eq_some_iff {level : Level} {t : Token} {operator : Operator} :
    level.operator? t = some operator ↔ operator.level = level ∧ t = operator.token := by
  cases level <;> cases t <;> cases operator <;>
    simp [operator?, sumOperator?, productOperator?, Operator.level, Operator.token]

/-- The symbols of the grammar. -/
inductive Symbol
  /-- Parts with operators of one level between them. -/
  | chain (level : Level)
  /-- An atom with any number of signs in front. -/
  | operand
  /-- A number, a string literal or a sum in parentheses. -/
  | atom

/-- What stands between the operators of a level. -/
def Level.part : Level → Symbol
  | sum => .chain .product
  | product => .operand

namespace Symbol

/-- Whether a phrase goes on when an operator follows it. -/
def TakesUp : Symbol → Operator → Prop
  | chain .sum, _ => True
  | chain .product, operator => operator.level = .product
  | operand, _ | atom, _ => False

/-- Whether a phrase can end before some tokens. -/
def EndsBefore (s : Symbol) (rest : List Token) : Prop :=
  ∀ operator : Operator, s.TakesUp operator → ∀ after, rest ≠ operator.token :: after

variable {s : Symbol} {level : Level} {operator : Operator} {rest after : List Token}

theorem takesUp_chain_iff :
    (chain level).TakesUp operator ↔ operator.level = level ∨ level.part.TakesUp operator := by
  cases level <;> cases operator <;> simp [TakesUp, Operator.level, Level.part]

theorem not_takesUp_part (h : operator.level = level) : ¬ level.part.TakesUp operator := by
  subst h
  cases operator <;> simp [TakesUp, Operator.level, Level.part]

theorem endsBefore_nil : s.EndsBefore [] :=
  fun _ _ _ h => List.cons_ne_nil _ _ h.symm

theorem endsBefore_closeParen : s.EndsBefore (.closeParen :: rest) := by
  intro operator _ after h
  cases operator <;> cases h

/-- A part ends before an operator between parts. -/
theorem endsBefore_operator (h : operator.level = level) :
    level.part.EndsBefore (operator.token :: rest) := by
  intro other hother after heq
  obtain rfl := Operator.token_injective (List.cons.inj heq).1
  exact not_takesUp_part h hother

/-- A chain goes on before its operators. -/
theorem not_endsBefore_operator (h : operator.level = level) :
    ¬ (chain level).EndsBefore (operator.token :: rest) :=
  fun hends => hends operator (takesUp_chain_iff.2 (.inl h)) rest rfl

theorem EndsBefore.part (h : (chain level).EndsBefore rest) : level.part.EndsBefore rest :=
  fun operator hoperator => h operator (takesUp_chain_iff.2 (.inr hoperator))

theorem EndsBefore.operator?_eq_none (h : (chain level).EndsBefore rest) :
    ∀ t ∈ rest.head?, level.operator? t = none := by
  intro t ht
  obtain ⟨after, rfl⟩ := List.head?_eq_some_iff.1 ht
  rw [Option.eq_none_iff_forall_ne_some]
  intro operator hoperator
  obtain ⟨hlevel, rfl⟩ := Level.operator?_eq_some_iff.1 hoperator
  exact not_endsBefore_operator hlevel h

end Symbol

/-! ## Phrases -/

/-- The derivations from a symbol. -/
inductive Phrase : Symbol → Type
  | number (x : Float) : Phrase .atom
  | text (s : String) : Phrase .atom
  | parenthesized (inner : Phrase (.chain .sum)) : Phrase .atom
  | plain (atom : Phrase .atom) : Phrase .operand
  | signed (sign : Sign) (operand : Phrase .operand) : Phrase .operand
  | single {level : Level} (part : Phrase level.part) : Phrase (.chain level)
  | longer {level : Level} (part : Phrase level.part) (operator : Operator)
    (hlevel : operator.level = level) (rest : Phrase (.chain level)) : Phrase (.chain level)

namespace Phrase

variable {s : Symbol}

/-- The tokens that a phrase derives. -/
def tokens {s : Symbol} : Phrase s → List Token
  | number x => [.number x]
  | text s => [.text s]
  | parenthesized inner => .openParen :: (inner.tokens ++ [.closeParen])
  | plain atom => atom.tokens
  | signed sign operand => sign.token :: operand.tokens
  | single part => part.tokens
  | longer part operator _ rest => part.tokens ++ operator.token :: rest.tokens

/-- The number of parentheses and signs around the deepest atom of a phrase. -/
def depth {s : Symbol} : Phrase s → Nat
  | number _ | text _ => 0
  | parenthesized inner => inner.depth + 1
  | plain atom => atom.depth
  | signed _ operand => operand.depth + 1
  | single part => part.depth
  | longer part _ _ rest => max part.depth rest.depth

/-- The tree of a phrase whose first part is combined with what stands before it. -/
def treeAfter {s : Symbol} : Phrase s → (Tree → Tree) → Tree
  | number x, before => before (.number x)
  | text s, before => before (.text s)
  | parenthesized inner, before => before (inner.treeAfter id)
  | plain atom, before => before (atom.treeAfter id)
  | signed sign operand, before => before (.signed sign (operand.treeAfter id))
  | single part, before => before (part.treeAfter id)
  | longer part operator _ rest, before =>
    rest.treeAfter (.binary operator (before (part.treeAfter id)))

/-- The tree of a phrase. Operators of one level associate to the left. -/
def tree (p : Phrase s) : Tree :=
  p.treeAfter id

/-! ## Unambiguity -/

/-- No atom starts with a sign. -/
theorem tokens_atom_append_ne (atom : Phrase .atom) (sign : Sign) (r r' : List Token) :
    atom.tokens ++ r ≠ sign.token :: r' := by
  intro h
  cases sign <;> cases atom <;> cases h

/-- **The grammar is unambiguous.** A list of tokens starts with one phrase only that can end where
it does. -/
theorem eq_of_tokens_append {p q : Phrase s} {r r' : List Token} (hr : s.EndsBefore r)
    (hr' : s.EndsBefore r') (h : p.tokens ++ r = q.tokens ++ r') : p = q ∧ r = r' := by
  induction p generalizing r r' with
  | number x =>
    cases q with
    | number y =>
      obtain ⟨hxy, hrest⟩ := List.cons.inj h
      exact ⟨congrArg number (Token.number.inj hxy), hrest⟩
    | text | parenthesized => cases h
  | text s =>
    cases q with
    | text t =>
      obtain ⟨hst, hrest⟩ := List.cons.inj h
      exact ⟨congrArg text (Token.text.inj hst), hrest⟩
    | number | parenthesized => cases h
  | parenthesized inner ih =>
    cases q with
    | parenthesized inner' =>
      have hinner : inner.tokens ++ .closeParen :: r = inner'.tokens ++ .closeParen :: r' := by
        simpa [tokens] using h
      obtain ⟨rfl, hrest⟩ := ih Symbol.endsBefore_closeParen Symbol.endsBefore_closeParen hinner
      exact ⟨rfl, (List.cons.inj hrest).2⟩
    | number | text => cases h
  | plain atom ih =>
    cases q with
    | plain atom' =>
      obtain ⟨rfl, hrest⟩ := ih (fun _ => False.elim) (fun _ => False.elim) h
      exact ⟨rfl, hrest⟩
    | signed sign operand => exact absurd h (tokens_atom_append_ne atom sign _ _)
  | signed sign operand ih =>
    cases q with
    | plain atom => exact absurd h.symm (tokens_atom_append_ne atom sign _ _)
    | signed sign' operand' =>
      obtain ⟨hsign, hoperand⟩ := List.cons.inj h
      obtain rfl := Sign.token_injective hsign
      obtain ⟨rfl, hrest⟩ := ih hr hr' hoperand
      exact ⟨rfl, hrest⟩
  | single part ih =>
    cases q with
    | single part' =>
      obtain ⟨rfl, hrest⟩ := ih hr.part hr'.part h
      exact ⟨rfl, hrest⟩
    | longer part' operator hlevel rest' =>
      rw [tokens, tokens, List.append_assoc] at h
      obtain ⟨-, rfl⟩ := ih hr.part (Symbol.endsBefore_operator hlevel) h
      exact absurd hr (Symbol.not_endsBefore_operator hlevel)
  | longer part operator hlevel rest ihpart ihrest =>
    rw [tokens, List.append_assoc] at h
    cases q with
    | single part' =>
      obtain ⟨-, rfl⟩ := ihpart (Symbol.endsBefore_operator hlevel) hr'.part h
      exact absurd hr' (Symbol.not_endsBefore_operator hlevel)
    | longer part' operator' hlevel' rest' =>
      rw [tokens, List.append_assoc] at h
      obtain ⟨rfl, hafter⟩ := ihpart (Symbol.endsBefore_operator hlevel)
        (Symbol.endsBefore_operator hlevel') h
      obtain ⟨hoperator, hrests⟩ := List.cons.inj hafter
      obtain rfl := Operator.token_injective hoperator
      obtain ⟨rfl, hrest⟩ := ihrest hr hr' hrests
      exact ⟨rfl, hrest⟩

/-- A list of tokens has at most one derivation. -/
theorem tokens_injective : Function.Injective (tokens (s := s)) := by
  intro p q h
  exact (eq_of_tokens_append Symbol.endsBefore_nil Symbol.endsBefore_nil
    (congrArg (· ++ []) h)).1

end Phrase

end Spreadsheet.Expression
