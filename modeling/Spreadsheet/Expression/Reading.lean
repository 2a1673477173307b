import Spreadsheet.Expression.Token
import Spreadsheet.Expression.Tree

/-!
# Reading expressions

The grammar has sums of products of operands; an operand is a number, a string literal, a signed
operand or an expression in parentheses. Operators of one rank associate to the left.

* A `Reader` reads a tree from the front of a list of tokens and never adds to the list.
* `operand` is the reader of operands with a bounded number of parentheses and signs around them,
  `products` and `sums` are readers of chains.
* `read` reads a whole list of tokens as an expression, and `evaluate` is the value of a text.
-/

namespace Spreadsheet.Expression

/-- A tree read from the front of some tokens, and the tokens after it. -/
structure Reading (tokens : List Token) where
  tree : Tree
  rest : List Token
  length_rest_le : rest.length ≤ tokens.length

/-- A way to read a tree from the front of any tokens. -/
abbrev Reader := (tokens : List Token) → Reading tokens

namespace Reading

/-- The same reading of a list with one more token in front, as part of another tree. -/
def behind {tokens : List Token} (r : Reading tokens) (t : Token) (tree : Tree) :
    Reading (t :: tokens) :=
  ⟨tree, r.rest, Nat.le_succ_of_le r.length_rest_le⟩

/-- A reading that goes on where another ended, in a list with one more token in front. -/
def continued {tokens : List Token} (r : Reading tokens) (t : Token) (s : Reading r.rest) :
    Reading (t :: tokens) :=
  ⟨s.tree, s.rest, Nat.le_succ_of_le (Nat.le_trans s.length_rest_le r.length_rest_le)⟩

/-- Reading stops where an operand is needed; nothing after it is read. -/
def stop (tokens : List Token) (fault : ExpressionError) : Reading tokens :=
  ⟨.missing fault, [], Nat.zero_le _⟩

end Reading

/-! ## Chains -/

/-- The operator of a sum that a token writes. -/
def sumOperator? : Token → Option Operator
  | .plus => some .add
  | .minus => some .subtract
  | _ => none

/-- The operator of a product that a token writes. -/
def productOperator? : Token → Option Operator
  | .times => some .multiply
  | .divide => some .divide
  | _ => none

/-- The rest of a chain whose left part has been read: operators and operands in turn, associating
to the left. -/
def chainFrom (operator? : Token → Option Operator) (next : Reader) (left : Tree)
    (tokens : List Token) : Reading tokens :=
  match tokens with
  | [] => ⟨left, [], Nat.le_refl _⟩
  | t :: rest =>
    match operator? t with
    | none => ⟨left, t :: rest, Nat.le_refl _⟩
    | some operator =>
      let right := next rest
      right.continued t
        (chainFrom operator? next (.binary operator left right.tree) right.rest)
termination_by tokens.length
decreasing_by
  have := (next rest).length_rest_le
  simp only [List.length_cons]
  omega

/-- One or more of what `next` reads, with operators between them. -/
def chain (operator? : Token → Option Operator) (next : Reader) : Reader := fun tokens =>
  let first := next tokens
  let whole := chainFrom operator? next first.tree first.rest
  ⟨whole.tree, whole.rest, Nat.le_trans whole.length_rest_le first.length_rest_le⟩

/-- Products of what `next` reads. -/
def products (next : Reader) : Reader :=
  chain productOperator? next

/-- Sums of products of what `next` reads. -/
def sums (next : Reader) : Reader :=
  chain sumOperator? (products next)

/-! ## Operands -/

/-- What follows an opening parenthesis: the expression in it and its closing parenthesis. The
whole list has `size` tokens, so a token's position is told by how many are left. -/
def closing (size : Nat) {tokens : List Token} (inner : Reading tokens) : Reading tokens :=
  match _h : inner.rest with
  | .closeParen :: rest => ⟨inner.tree, rest, by
      have := inner.length_rest_le
      simp only [_h, List.length_cons] at this
      omega⟩
  | [] => ⟨.broken inner.tree .unexpectedEnd, [], Nat.zero_le _⟩
  | t :: rest =>
    ⟨.broken inner.tree (.unexpectedToken (size - (t :: rest).length)), [], Nat.zero_le _⟩

/-- An operand with fewer than `budget` parentheses and signs around any part of it. -/
def operand (size budget : Nat) : Reader := fun tokens =>
  match budget with
  | 0 => .stop tokens .tooDeep
  | deeper + 1 =>
    match tokens with
    | [] => .stop [] .unexpectedEnd
    | .number x :: rest => ⟨.number x, rest, Nat.le_succ _⟩
    | .text s :: rest => ⟨.text s, rest, Nat.le_succ _⟩
    | .minus :: rest =>
      let inner := operand size deeper rest
      inner.behind .minus (.signed .minus inner.tree)
    | .plus :: rest =>
      let inner := operand size deeper rest
      inner.behind .plus (.signed .plus inner.tree)
    | .openParen :: rest =>
      let inner := closing size (sums (operand size deeper) rest)
      inner.behind .openParen inner.tree
    | t :: rest => .stop (t :: rest) (.unexpectedToken (size - (t :: rest).length))

/-! ## Whole expressions -/

/-- The number of parentheses and signs that may stand around an operand. -/
def depthLimit : Nat :=
  128

/-- A list of tokens as an expression. -/
def read (tokens : List Token) : Tree :=
  let whole := sums (operand tokens.length (depthLimit + 1)) tokens
  match whole.rest with
  | [] => whole.tree
  | t :: rest => .broken whole.tree (.unexpectedToken (tokens.length - (t :: rest).length))

/-- The value of an expression. -/
def evaluate (text : List Char) : Except ExpressionError Value :=
  (tokens text).bind fun ts => (read ts).eval.bind Operand.toValue

end Spreadsheet.Expression
