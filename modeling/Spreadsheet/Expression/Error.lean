import Spreadsheet.Text.Quotation

/-!
# Why an expression has no value

* `ExpressionError` lists the causes and `ExpressionError.message` words them.
-/

namespace Spreadsheet

/-- Why an expression could not be evaluated. -/
inductive ExpressionError
  /-- A character that starts no token, and how many bytes of text stand before it. -/
  | unexpectedCharacter (c : Char) (offset : Nat)
  /-- The text ends where a token is needed. -/
  | unexpectedEnd
  /-- A token that does not fit, and how many tokens stand before it. -/
  | unexpectedToken (position : Nat)
  /-- A string literal that is never closed. -/
  | unterminatedString
  /-- A run of digits and points that is no number. -/
  | malformedNumber (text : List Char)
  /-- Arithmetic on a text that reads as no number. -/
  | textAsNumber (text : String)
  | divisionByZero
  /-- The value is infinite or no number. -/
  | notFinite
  /-- Too many parentheses or signs around an operand. -/
  | tooDeep
  deriving DecidableEq, Repr

/-- The wording of an error. -/
def ExpressionError.message : ExpressionError → String
  | unexpectedCharacter c offset =>
    "unexpected character " ++ Text.quoteChar c ++ " at offset " ++ toString offset
  | unexpectedEnd => "unexpected end of expression"
  | unexpectedToken position => "unexpected token at position " ++ toString position
  | unterminatedString => "unterminated string literal"
  | malformedNumber text => "malformed number " ++ Text.quoteText text
  | textAsNumber text => "text " ++ Text.quoteText text.toList ++ " used as a number"
  | divisionByZero => "division by zero"
  | notFinite => "result is not a finite number"
  | tooDeep => "expression nested too deeply"

end Spreadsheet
