import Spreadsheet.Proofs.Expression.Denotation
import Spreadsheet.Proofs.Expression.Grammar

/-!
# Reading follows the grammar

* A reader `Follows` a symbol of the grammar if it reads every phrase of the symbol, and nothing
  else without a fault. Chains of parts follow if the parts do (`Reader.Follows.chain`), and so do
  operands, by induction on the number of parentheses and signs (`follows_operand`).
* `read_tokens` and `exists_phrase_of_isWhole`: a list of tokens is read as the tree of its
  derivation, or with a fault.
* `evaluate_eq_ok_iff_hasValue`: the value of a text is that of its only derivation.
-/

namespace Spreadsheet.Expression

/-! ## Trees without faults -/

/-- Whether no fault was met where the tree was read. -/
def Tree.IsWhole : Tree → Prop
  | number _ | text _ => True
  | signed _ operand => operand.IsWhole
  | binary _ left right => left.IsWhole ∧ right.IsWhole
  | missing _ | broken _ _ => False

theorem Tree.Denotes.isWhole {t : Tree} {a : Operand} (h : t.Denotes a) : t.IsWhole := by
  induction h with
  | number | text => trivial
  | signed _ _ ih => exact ih
  | binary _ _ _ ihl ihr => exact ⟨ihl, ihr⟩

/-- Whether a reading has a tree and a rest. -/
def Reading.Gives {ts : List Token} (r : Reading ts) (tree : Tree) (rest : List Token) : Prop :=
  r.tree = tree ∧ r.rest = rest

/-- Whether a reader reads what the grammar derives from a symbol, with fewer than `budget`
parentheses and signs around any atom. -/
structure Reader.Follows (next : Reader) (s : Symbol) (budget : Nat) : Prop where
  /-- A phrase is read where it can end. -/
  complete : ∀ (p : Phrase s) (rest : List Token), p.depth < budget → s.EndsBefore rest →
    (next (p.tokens ++ rest)).Gives p.tree rest
  /-- What is read without a fault is a phrase. -/
  sound : ∀ ts, (next ts).tree.IsWhole →
    ∃ p : Phrase s, p.depth < budget ∧ ts = p.tokens ++ (next ts).rest

/-! ## Chains -/

section Chain

variable {operator? : Token → Option Operator} {next : Reader} {left : Tree} {t : Token}
  {ts rest : List Token} {operator : Operator} {level : Level} {budget : Nat}

theorem chainFrom_cons (h : operator? t = some operator) :
    chainFrom operator? next left (t :: ts) =
      (next ts).continued t
        (chainFrom operator? next (.binary operator left (next ts).tree) (next ts).rest) := by
  rw [chainFrom]
  split <;> simp_all

theorem chainFrom_of_head (h : ∀ t ∈ ts.head?, operator? t = none) :
    chainFrom operator? next left ts = ⟨left, ts, Nat.le_refl _⟩ := by
  cases ts with
  | nil => rw [chainFrom]
  | cons t rest =>
    rw [chainFrom]
    split
    · rfl
    · rename_i hsome
      rw [h t rfl] at hsome
      cases hsome

/-- A chain whose first part is read is read to its end. -/
theorem gives_chainFrom (hnext : next.Follows level.part budget) :
    ∀ (p : Phrase (.chain level)) (before : Tree → Tree) (rest : List Token), p.depth < budget →
      (Symbol.chain level).EndsBefore rest →
      (chainFrom level.operator? next (before (next (p.tokens ++ rest)).tree)
        (next (p.tokens ++ rest)).rest).Gives (p.treeAfter before) rest
  | .single part, before, rest, hdepth, hrest => by
    obtain ⟨htree, hafter⟩ := hnext.complete part rest hdepth hrest.part
    rw [Phrase.tokens, htree, hafter, chainFrom_of_head hrest.operator?_eq_none]
    exact ⟨rfl, rfl⟩
  | .longer part operator hlevel more, before, rest, hdepth, hrest => by
    obtain ⟨hpart, hmore⟩ := Nat.max_lt.1 hdepth
    obtain ⟨htree, hafter⟩ := hnext.complete part (operator.token :: (more.tokens ++ rest)) hpart
      (Symbol.endsBefore_operator hlevel)
    rw [Phrase.tokens, List.append_assoc, List.cons_append, htree, hafter,
      chainFrom_cons (Level.operator?_eq_some_iff.2 ⟨hlevel, rfl⟩)]
    exact gives_chainFrom hnext more (.binary operator (before part.tree)) rest hmore hrest

/-- The left part of a chain without a fault has none. -/
theorem isWhole_of_chainFrom (h : (chainFrom operator? next left ts).tree.IsWhole) :
    left.IsWhole := by
  induction left, ts using chainFrom.induct operator? next with
  | case1 left =>
    rw [chainFrom] at h
    exact h
  | case2 left t rest ht =>
    rw [chainFrom_of_head (by simpa using ht)] at h
    exact h
  | case3 left t rest operator ht right ih =>
    rw [chainFrom_cons ht] at h
    exact (ih h).1

/-- A chain without a fault continues its first part to a longer phrase. -/
theorem exists_phrase_of_chainFrom (hnext : next.Follows level.part budget)
    (h : (chainFrom level.operator? next left ts).tree.IsWhole) (first : Phrase level.part)
    (hfirst : first.depth < budget) :
    ∃ p : Phrase (.chain level), p.depth < budget ∧
      first.tokens ++ ts = p.tokens ++ (chainFrom level.operator? next left ts).rest := by
  induction left, ts using chainFrom.induct level.operator? next generalizing first with
  | case1 left => exact ⟨.single first, hfirst, by rw [chainFrom]; rfl⟩
  | case2 left t rest ht =>
    rw [chainFrom_of_head (by simpa using ht)]
    exact ⟨.single first, hfirst, rfl⟩
  | case3 left t rest operator ht right ih =>
    obtain ⟨hlevel, rfl⟩ := Level.operator?_eq_some_iff.1 ht
    rw [chainFrom_cons ht] at h ⊢
    have hwhole : (chainFrom level.operator? next (.binary operator left right.tree)
        right.rest).tree.IsWhole := h
    obtain ⟨part, hpart, hrest⟩ := hnext.sound rest (isWhole_of_chainFrom hwhole).2
    obtain ⟨more, hmore, htokens⟩ := ih hwhole part hpart
    refine ⟨.longer first operator hlevel more, Nat.max_lt.2 ⟨hfirst, hmore⟩, ?_⟩
    rw [Phrase.tokens, List.append_assoc, List.cons_append]
    exact congrArg (fun after => first.tokens ++ operator.token :: after) (hrest.trans htokens)

/-- **Chains** of what follows the grammar follow it. -/
theorem Reader.Follows.chain (level : Level) (hnext : next.Follows level.part budget) :
    (chain level.operator? next).Follows (.chain level) budget where
  complete p rest hdepth hrest := gives_chainFrom hnext p id rest hdepth hrest
  sound ts h := by
    have hwhole : (chainFrom level.operator? next (next ts).tree (next ts).rest).tree.IsWhole := h
    obtain ⟨first, hfirst, hts⟩ := hnext.sound ts (isWhole_of_chainFrom hwhole)
    obtain ⟨p, hp, htokens⟩ := exists_phrase_of_chainFrom hnext hwhole first hfirst
    exact ⟨p, hp, hts.trans htokens⟩

theorem Reader.Follows.sums (hnext : next.Follows .operand budget) :
    (sums next).Follows (.chain .sum) budget :=
  Follows.chain .sum (Follows.chain .product hnext)

end Chain

/-! ## Operands -/

section Operand

variable {size budget : Nat}

/-- Reading an expression in parentheses. -/
theorem gives_closing {ts rest : List Token} {inner : Reading ts} {tree : Tree}
    (h : inner.Gives tree (.closeParen :: rest)) : (closing size inner).Gives tree rest := by
  obtain ⟨tree', rest', hlength⟩ := inner
  obtain ⟨rfl, rfl⟩ := h
  exact ⟨rfl, rfl⟩

/-- An expression in parentheses without a fault is closed. -/
theorem isWhole_of_closing {ts : List Token} {inner : Reading ts}
    (h : (closing size inner).tree.IsWhole) :
    inner.tree.IsWhole ∧ inner.rest = .closeParen :: (closing size inner).rest := by
  obtain ⟨tree, rest, hlength⟩ := inner
  cases rest with
  | nil => exact h.elim
  | cons t rest =>
    cases t with
    | closeParen => exact ⟨h, rfl⟩
    | _ => exact h.elim

/-- Operands are read with one more sign or parenthesis around them. -/
theorem gives_operand_succ (h : Reader.Follows (operand size budget) .operand budget)
    {rest : List Token} (p : Phrase .operand) (hdepth : p.depth < budget + 1)
    (hrest : Symbol.operand.EndsBefore rest) :
    (operand size (budget + 1) (p.tokens ++ rest)).Gives p.tree rest := by
  cases p with
  | plain atom =>
    cases atom with
    | number x => exact ⟨rfl, rfl⟩
    | text s => exact ⟨rfl, rfl⟩
    | parenthesized inner =>
      have hinner := h.sums.complete inner (.closeParen :: rest)
        (Nat.lt_of_succ_lt_succ hdepth) Symbol.endsBefore_closeParen
      have htokens : (Phrase.plain (.parenthesized inner)).tokens ++ rest =
          .openParen :: (inner.tokens ++ .closeParen :: rest) := by
        simp [Phrase.tokens]
      rw [htokens]
      exact gives_closing hinner
  | signed sign operand =>
    have hinner := h.complete operand rest (Nat.lt_of_succ_lt_succ hdepth) hrest
    cases sign with
    | plus => exact ⟨congrArg (Tree.signed .plus) hinner.1, hinner.2⟩
    | minus => exact ⟨congrArg (Tree.signed .minus) hinner.1, hinner.2⟩

/-- What is read without a fault is an operand with one more sign or parenthesis around it. -/
theorem exists_phrase_of_operand_succ (h : Reader.Follows (operand size budget) .operand budget)
    {ts : List Token} (hwhole : (operand size (budget + 1) ts).tree.IsWhole) :
    ∃ p : Phrase .operand, p.depth < budget + 1 ∧
      ts = p.tokens ++ (operand size (budget + 1) ts).rest := by
  cases ts with
  | nil => exact hwhole.elim
  | cons t rest =>
    cases t with
    | number x => exact ⟨.plain (.number x), Nat.succ_pos _, rfl⟩
    | text s => exact ⟨.plain (.text s), Nat.succ_pos _, rfl⟩
    | plus =>
      obtain ⟨p, hp, hrest⟩ := h.sound rest hwhole
      exact ⟨.signed .plus p, Nat.succ_lt_succ hp, congrArg (Token.plus :: ·) hrest⟩
    | minus =>
      obtain ⟨p, hp, hrest⟩ := h.sound rest hwhole
      exact ⟨.signed .minus p, Nat.succ_lt_succ hp, congrArg (Token.minus :: ·) hrest⟩
    | openParen =>
      have hinside : (closing size (sums (operand size budget) rest)).tree.IsWhole := hwhole
      obtain ⟨hinner, hclosed⟩ := isWhole_of_closing hinside
      obtain ⟨p, hp, hrest⟩ := h.sums.sound rest hinner
      refine ⟨.plain (.parenthesized p), Nat.succ_lt_succ hp, ?_⟩
      rw [Phrase.tokens, Phrase.tokens, List.cons_append, List.append_assoc]
      exact congrArg (Token.openParen :: ·) (hrest.trans (congrArg (p.tokens ++ ·) hclosed))
    | times | divide | closeParen => exact hwhole.elim

/-- **Operands** follow the grammar, whatever the number of parentheses and signs around them. -/
theorem follows_operand (size budget : Nat) :
    Reader.Follows (operand size budget) .operand budget := by
  induction budget with
  | zero =>
    refine ⟨fun p rest hdepth => absurd hdepth (Nat.not_lt_zero _), fun ts h => ?_⟩
    rw [operand] at h
    exact h.elim
  | succ budget ih =>
    exact ⟨fun p _ => gives_operand_succ ih p, fun _ => exists_phrase_of_operand_succ ih⟩

end Operand

/-! ## Whole expressions -/

/-- The derivation of a list of tokens is read. -/
theorem read_tokens (p : Phrase (.chain .sum)) (hdepth : p.depth ≤ depthLimit) :
    read p.tokens = p.tree := by
  obtain ⟨htree, hrest⟩ := (follows_operand p.tokens.length (depthLimit + 1)).sums.complete p []
    (Nat.lt_succ_of_le hdepth) Symbol.endsBefore_nil
  rw [List.append_nil] at htree hrest
  simp only [read, hrest, htree]

/-- What is read without a fault has a derivation. -/
theorem exists_phrase_of_isWhole {ts : List Token} (h : (read ts).IsWhole) :
    ∃ p : Phrase (.chain .sum), p.tokens = ts ∧ p.depth ≤ depthLimit := by
  rw [read] at h
  split at h
  · rename_i hrest
    obtain ⟨p, hp, htokens⟩ :=
      (follows_operand ts.length (depthLimit + 1)).sums.sound ts h
    rw [hrest, List.append_nil] at htokens
    exact ⟨p, htokens.symm, Nat.le_of_lt_succ hp⟩
  · exact h.elim

/-- The value of a text, which is that of its derivation. There has to be one derivation, with at
most 128 parentheses and signs around any atom. -/
def HasValue (text : List Char) (v : Value) : Prop :=
  ∃ p : Phrase (.chain .sum), tokens text = .ok p.tokens ∧
    (∀ q : Phrase (.chain .sum), q.tokens = p.tokens → q = p) ∧ p.depth ≤ 128 ∧ p.tree.HasValue v

/-- What evaluates has a derivation, and its value is that of the derivation. -/
theorem hasValue_of_evaluate {text : List Char} {v : Value} (h : evaluate text = .ok v) :
    HasValue text v := by
  obtain ⟨ts, hts, hvalue⟩ := Except.bind_eq_ok_iff.1 h
  obtain ⟨a, ha, -⟩ := Except.bind_eq_ok_iff.1 hvalue
  obtain ⟨p, rfl, hdepth⟩ := exists_phrase_of_isWhole (Tree.eval_eq_ok_iff.1 ha).isWhole
  rw [read_tokens p hdepth, Tree.hasValue_iff] at hvalue
  exact ⟨p, hts, fun q hq => Phrase.tokens_injective hq, hdepth, hvalue⟩

/-- What has a derivation evaluates. -/
theorem evaluate_of_hasValue {text : List Char} {v : Value} (h : HasValue text v) :
    evaluate text = .ok v := by
  obtain ⟨p, hts, -, hdepth, hvalue⟩ := h
  refine Except.bind_eq_ok_iff.2 ⟨p.tokens, hts, ?_⟩
  rw [read_tokens p hdepth]
  exact Tree.hasValue_iff.2 hvalue

/-- **The evaluator implements the grammar.** A text evaluates to the value of its derivation, and
every text that has no such value is refused. -/
theorem evaluate_eq_ok_iff_hasValue (text : List Char) :
    (∀ v, evaluate text = .ok v ↔ HasValue text v) ∧
      ((∃ fault, evaluate text = .error fault) ↔ ∀ v, ¬ HasValue text v) := by
  refine ⟨fun v => ⟨hasValue_of_evaluate, evaluate_of_hasValue⟩, ?_⟩
  constructor
  · rintro ⟨fault, hfault⟩ v hv
    rw [evaluate_of_hasValue hv] at hfault
    cases hfault
  · intro h
    cases hevaluate : evaluate text with
    | error fault => exact ⟨fault, rfl⟩
    | ok v => exact absurd (hasValue_of_evaluate hevaluate) (h v)

/-- Operators of one level associate to the left, products bind tighter and signs tightest. -/
example : (evaluate "8 - 4 - 2 * -1".toList).toOption = some (.number 6) := by
  decide +kernel

/-- A sum with a text in it joins what both sides are shown as. -/
example : (evaluate "2 + \"b\"".toList).toOption = some (.text "2b") := by
  decide +kernel

end Spreadsheet.Expression
