import Spreadsheet.Expression.Tree
import Spreadsheet.Proofs.Except

/-!
# The value that an expression denotes

* `Tree.Denotes` gives the value of a tree by rules, without an order of evaluation.
* `Tree.eval_eq_ok_iff`: evaluating a tree succeeds with the value that it denotes.
-/

namespace Spreadsheet.Expression

/-! ## Rules -/

/-- The number that an operand is read as. A text is read as a finite number. -/
inductive Operand.ReadsAs : Operand → Float → Prop
  | number (x : Float) : ReadsAs (.number x) x
  | text {s : String} {x : Float} (hread : Decimal.read? (Text.trim s.toList) = some x)
    (hfinite : x.isFinite = true) : ReadsAs (.text s) x

/-- The text by which an operand is shown. -/
inductive Operand.ShowsAs : Operand → String → Prop
  | number (x : Float) : ShowsAs (.number x) (Decimal.display x)
  | text (s : String) : ShowsAs (.text s) s

/-- Whether an operand is a text. -/
def Operand.IsText : Operand → Prop
  | .number _ => False
  | .text _ => True

/-- The value of a signed operand. -/
inductive Sign.Yields : Sign → Operand → Operand → Prop
  | plus {a : Operand} {x : Float} (ha : a.ReadsAs x) : Yields .plus a (.number x)
  | minus {a : Operand} {x : Float} (ha : a.ReadsAs x) : Yields .minus a (.number (-x))

/-- The value of an operator on two operands. -/
inductive Operator.Yields : Operator → Operand → Operand → Operand → Prop
  | sum (x y : Float) : Yields .add (.number x) (.number y) (.number (x + y))
  /-- Adding joins what both sides are shown as if either one is a text. -/
  | join {a b : Operand} {s t : String} (h : a.IsText ∨ b.IsText) (ha : a.ShowsAs s)
    (hb : b.ShowsAs t) : Yields .add a b (.text (s ++ t))
  | difference {a b : Operand} {x y : Float} (ha : a.ReadsAs x) (hb : b.ReadsAs y) :
    Yields .subtract a b (.number (x - y))
  | product {a b : Operand} {x y : Float} (ha : a.ReadsAs x) (hb : b.ReadsAs y) :
    Yields .multiply a b (.number (x * y))
  | quotient {a b : Operand} {x y : Float} (ha : a.ReadsAs x) (hb : b.ReadsAs y)
    (hy : (y == 0) = false) : Yields .divide a b (.number (x / y))

/-- The value of a tree. -/
inductive Tree.Denotes : Tree → Operand → Prop
  | number (x : Float) : Denotes (.number x) (.number x)
  | text (s : String) : Denotes (.text s) (.text s)
  | signed {sign : Sign} {t : Tree} {a b : Operand} (ht : Denotes t a) (hb : sign.Yields a b) :
    Denotes (.signed sign t) b
  | binary {operator : Operator} {l r : Tree} {a b c : Operand} (hl : Denotes l a)
    (hr : Denotes r b) (hc : operator.Yields a b c) : Denotes (.binary operator l r) c

/-! ## Evaluation follows the rules -/

theorem Operand.toNumber_eq_ok_iff {a : Operand} {x : Float} :
    a.toNumber = .ok x ↔ a.ReadsAs x := by
  cases a with
  | number y =>
    refine ⟨fun h => ?_, fun h => ?_⟩
    · cases h
      exact .number _
    · cases h
      rfl
  | text s =>
    have hread : (Operand.text s).toNumber = .ok x ↔ Value.finiteNumber? s.toList = some x := by
      rw [toNumber]
      split <;> simp_all
    rw [hread, Value.finiteNumber?, Option.filter_eq_some_iff]
    refine ⟨fun h => .text h.1 h.2, fun h => ?_⟩
    cases h with
    | text hread hfinite => exact ⟨hread, hfinite⟩

theorem Operand.toText_eq_iff {a : Operand} {s : String} : a.toText = s ↔ a.ShowsAs s := by
  constructor
  · rintro rfl
    cases a with
    | number x => exact .number x
    | text s => exact .text s
  · intro h
    cases h <;> rfl

theorem Sign.apply_eq_ok_iff {sign : Sign} {a b : Operand} :
    sign.apply a = .ok b ↔ sign.Yields a b := by
  constructor
  · intro h
    cases sign <;> obtain ⟨x, hx, rfl⟩ := Except.map_eq_ok_iff.1 h
    · exact .plus (Operand.toNumber_eq_ok_iff.1 hx)
    · exact .minus (Operand.toNumber_eq_ok_iff.1 hx)
  · intro h
    cases h with
    | plus ha | minus ha => exact Except.map_eq_ok_iff.2 ⟨_, Operand.toNumber_eq_ok_iff.2 ha, rfl⟩

theorem Operator.apply_eq_ok_iff {operator : Operator} {a b c : Operand} :
    operator.apply a b = .ok c ↔ operator.Yields a b c := by
  constructor
  · intro h
    cases operator with
    | add =>
      have hshown (a : Operand) : a.ShowsAs a.toText := Operand.toText_eq_iff.1 rfl
      cases a <;> cases b <;> cases h
      · exact .sum _ _
      · exact .join (.inr trivial) (hshown _) (hshown _)
      · exact .join (.inl trivial) (hshown _) (hshown _)
      · exact .join (.inl trivial) (hshown _) (hshown _)
    | subtract =>
      obtain ⟨x, hx, h⟩ := Except.bind_eq_ok_iff.1 h
      obtain ⟨y, hy, h⟩ := Except.bind_eq_ok_iff.1 h
      cases h
      exact .difference (Operand.toNumber_eq_ok_iff.1 hx) (Operand.toNumber_eq_ok_iff.1 hy)
    | multiply =>
      obtain ⟨x, hx, h⟩ := Except.bind_eq_ok_iff.1 h
      obtain ⟨y, hy, h⟩ := Except.bind_eq_ok_iff.1 h
      cases h
      exact .product (Operand.toNumber_eq_ok_iff.1 hx) (Operand.toNumber_eq_ok_iff.1 hy)
    | divide =>
      obtain ⟨y, hy, h⟩ := Except.bind_eq_ok_iff.1 h
      cases hzero : y == 0 with
      | true =>
        rw [hzero] at h
        cases h
      | false =>
        rw [hzero] at h
        obtain ⟨x, hx, h⟩ := Except.bind_eq_ok_iff.1 h
        cases h
        exact .quotient (Operand.toNumber_eq_ok_iff.1 hx) (Operand.toNumber_eq_ok_iff.1 hy) hzero
  · intro h
    cases h with
    | sum x y => rfl
    | join h ha hb =>
      obtain rfl := Operand.toText_eq_iff.2 ha
      obtain rfl := Operand.toText_eq_iff.2 hb
      cases a <;> cases b <;> simp_all [apply, Operand.IsText]
    | difference ha hb | product ha hb =>
      rw [apply, Operand.toNumber_eq_ok_iff.2 ha, Operand.toNumber_eq_ok_iff.2 hb]
      rfl
    | quotient ha hb hy =>
      rw [apply, Operand.toNumber_eq_ok_iff.2 ha, Operand.toNumber_eq_ok_iff.2 hb]
      simp only [bind, Except.bind, hy]
      rfl

/-- **Evaluating a tree** succeeds with the value that the tree denotes. -/
theorem Tree.eval_eq_ok_iff {t : Tree} {a : Operand} : t.eval = .ok a ↔ t.Denotes a := by
  constructor
  · intro h
    induction t generalizing a with
    | number x =>
      cases h
      exact .number x
    | text s =>
      cases h
      exact .text s
    | signed sign t ih =>
      obtain ⟨b, hb, ha⟩ := Except.bind_eq_ok_iff.1 h
      exact .signed (ih hb) (Sign.apply_eq_ok_iff.1 ha)
    | binary operator l r ihl ihr =>
      obtain ⟨b, hb, h⟩ := Except.bind_eq_ok_iff.1 h
      obtain ⟨c, hc, ha⟩ := Except.bind_eq_ok_iff.1 h
      exact .binary (ihl hb) (ihr hc) (Operator.apply_eq_ok_iff.1 ha)
    | missing fault => cases h
    | broken before fault ih =>
      obtain ⟨b, -, h⟩ := Except.bind_eq_ok_iff.1 h
      cases h
  · intro h
    induction h with
    | number x | text s => rfl
    | signed ht hb ih =>
      rw [eval, ih]
      exact Sign.apply_eq_ok_iff.2 hb
    | binary hl hr hc ihl ihr =>
      rw [eval, ihl, ihr]
      exact Operator.apply_eq_ok_iff.2 hc

/-! ## Whole expressions -/

/-- The value of a tree as a value of a cell, which is no infinite number and no NaN. -/
def Tree.HasValue (t : Tree) : Value → Prop
  | .number x => x.isFinite = true ∧ t.Denotes (.number x)
  | .text s => t.Denotes (.text s)
  | .null | .error _ => False

theorem Tree.hasValue_iff {t : Tree} {v : Value} :
    t.eval.bind Operand.toValue = .ok v ↔ t.HasValue v := by
  rw [Except.bind_eq_ok_iff]
  constructor
  · rintro ⟨a, ha, hv⟩
    rw [eval_eq_ok_iff] at ha
    cases a with
    | number x =>
      rw [Operand.toValue] at hv
      split at hv
      · rename_i hfinite
        cases hv
        exact ⟨hfinite, ha⟩
      · cases hv
    | text s =>
      cases hv
      exact ha
  · intro h
    cases v with
    | number x => exact ⟨.number x, eval_eq_ok_iff.2 h.2, if_pos h.1⟩
    | text s => exact ⟨.text s, eval_eq_ok_iff.2 h, rfl⟩
    | null | error => exact h.elim

end Spreadsheet.Expression
