import Spreadsheet.Expression.Error
import Spreadsheet.Value

/-!
# Expressions as trees

* `Tree` is an expression as it is read. Where reading stopped at a fault, the tree says so: a tree
  is always there, and the fault is met in its turn when the tree is evaluated.
* `Tree.eval` evaluates from left to right; the first fault met is the answer.
* Adding joins texts if either side is a text. All other arithmetic reads texts as numbers.
-/

namespace Spreadsheet.Expression

/-- The value of a part of an expression. -/
inductive Operand
  | number (x : Float)
  | text (s : String)
  deriving DecidableEq, Repr

namespace Operand

/-- The operand as a number. -/
def toNumber : Operand → Except ExpressionError Float
  | number x => .ok x
  | text s =>
    match Value.finiteNumber? s.toList with
    | some x => .ok x
    | none => .error (.textAsNumber s)

/-- The operand as a text. -/
def toText : Operand → String
  | number x => Decimal.display x
  | text s => s

/-- The value of a whole expression, which has to be finite. -/
def toValue : Operand → Except ExpressionError Value
  | number x => if x.isFinite then .ok (.number x) else .error .notFinite
  | text s => .ok (.text s)

end Operand

/-- The operators between two operands. -/
inductive Operator
  | add
  | subtract
  | multiply
  | divide
  deriving DecidableEq, Repr

/-- The value of an operator on two operands. A divisor is looked at before the dividend. -/
def Operator.apply : Operator → Operand → Operand → Except ExpressionError Operand
  | add, .number x, .number y => .ok (.number (x + y))
  | add, a, b => .ok (.text (a.toText ++ b.toText))
  | subtract, a, b => do
    let x ← a.toNumber
    let y ← b.toNumber
    return .number (x - y)
  | multiply, a, b => do
    let x ← a.toNumber
    let y ← b.toNumber
    return .number (x * y)
  | divide, a, b => do
    let y ← b.toNumber
    if y == 0 then throw .divisionByZero
    let x ← a.toNumber
    return .number (x / y)

/-- The signs before an operand. -/
inductive Sign
  | plus
  | minus
  deriving DecidableEq, Repr

/-- The value of a signed operand, which is a number. -/
def Sign.apply : Sign → Operand → Except ExpressionError Operand
  | plus, a => a.toNumber.map .number
  | minus, a => a.toNumber.map fun x => .number (-x)

/-- An expression as it is read. -/
inductive Tree
  | number (x : Float)
  | text (s : String)
  | signed (sign : Sign) (operand : Tree)
  | binary (operator : Operator) (left right : Tree)
  /-- An operand is needed and there is none. -/
  | missing (fault : ExpressionError)
  /-- Something else is needed after an expression. -/
  | broken (before : Tree) (fault : ExpressionError)
  deriving DecidableEq, Repr

/-- The value of a tree. -/
def Tree.eval : Tree → Except ExpressionError Operand
  | number x => .ok (.number x)
  | text s => .ok (.text s)
  | signed sign operand => operand.eval.bind sign.apply
  | binary operator left right =>
    left.eval.bind fun a => right.eval.bind fun b => operator.apply a b
  | missing fault => .error fault
  | broken before fault => before.eval.bind fun _ => .error fault

end Spreadsheet.Expression
