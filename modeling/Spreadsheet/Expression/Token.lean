import Spreadsheet.Decimal.Numeral
import Spreadsheet.Expression.Error
import Spreadsheet.Text.Blank

/-!
# Tokens of expressions

* `Token` lists the tokens; a `Lexeme` is a token with the characters that write it.
* `lexemes` reads a text as lexemes with blanks between them, and `tokens` forgets the characters.
-/

namespace Spreadsheet.Expression

/-- A token. -/
inductive Token
  | number (x : Float)
  | text (s : String)
  | plus
  | minus
  | times
  | divide
  | openParen
  | closeParen
  deriving DecidableEq, Repr

/-- A token and the characters that write it. -/
structure Lexeme where
  token : Token
  source : List Char

namespace Token

/-- The token that a character is by itself. -/
def ofChar? (c : Char) : Option Token :=
  match c with
  | '+' => some plus
  | '-' => some minus
  | '*' => some times
  | '/' => some divide
  | '(' => some openParen
  | ')' => some closeParen
  | _ => none

/-- Whether a character continues a number after another: digits, points and exponent marks do,
and so does a sign right after an exponent mark. -/
def continuesNumber (previous c : Char) : Bool :=
  c.isDigit || c == '.' || c == 'e' || c == 'E' ||
    ((c == '+' || c == '-') && (previous == 'e' || previous == 'E'))

/-- The characters that continue a number. -/
def numberTail (previous : Char) : List Char → List Char
  | [] => []
  | c :: rest => if continuesNumber previous c then c :: numberTail c rest else []

end Token

namespace Lexeme

/-- The number that starts with a character. -/
def ofNumber (c : Char) (rest : List Char) : Except ExpressionError Lexeme :=
  let source := c :: Token.numberTail c rest
  match Decimal.read? source with
  | some x => .ok ⟨.number x, source⟩
  | none => .error (.malformedNumber source)

/-- The text of a string literal and what follows the literal, given what follows its opening mark:
`none` if the literal is never closed. A backslash puts the character after it into the text. -/
def readLiteral? : List Char → Option (List Char × List Char)
  | [] => none
  | c :: rest =>
    if c == '"' then some ([], rest)
    else if c == '\\' then
      match rest with
      | [] => none
      | d :: after => (readLiteral? after).map (Prod.map (d :: ·) id)
    else (readLiteral? rest).map (Prod.map (c :: ·) id)

/-- The string literal whose opening mark has just been read. -/
def ofLiteral (mark : Char) (rest : List Char) : Except ExpressionError Lexeme :=
  match readLiteral? rest with
  | some (content, after) =>
    .ok ⟨.text (String.ofList content), mark :: rest.take (rest.length - after.length)⟩
  | none => .error .unterminatedString

/-- The lexeme that starts with a character that is not blank, `offset` bytes into the text. -/
def starting (offset : Nat) (c : Char) (rest : List Char) : Except ExpressionError Lexeme :=
  match Token.ofChar? c with
  | some token => .ok ⟨token, [c]⟩
  | none =>
    if c == '"' then ofLiteral c rest
    else if c.isDigit || c == '.' then ofNumber c rest
    else .error (.unexpectedCharacter c offset)

end Lexeme

/-- The length of a text in bytes. -/
def byteLength (text : List Char) : Nat :=
  (String.ofList text).utf8ByteSize

/-- The lexemes of a text that starts `offset` bytes into the whole. -/
def lexemesFrom (offset : Nat) : List Char → Except ExpressionError (List Lexeme)
  | [] => .ok []
  | c :: rest =>
    if Text.isBlank c then lexemesFrom (offset + c.utf8Size) rest
    else match Lexeme.starting offset c rest with
      | .error e => .error e
      | .ok lexeme =>
        let after := lexemesFrom (offset + byteLength lexeme.source)
          (rest.drop (lexeme.source.length - 1))
        after.map (lexeme :: ·)
termination_by text => text.length
decreasing_by
  · simp
  · simp only [List.length_drop, List.length_cons]
    omega

/-- The lexemes of a text, or the first fault that keeps it from being read. -/
def lexemes (text : List Char) : Except ExpressionError (List Lexeme) :=
  lexemesFrom 0 text

/-- The tokens of a text. -/
def tokens (text : List Char) : Except ExpressionError (List Token) :=
  (lexemes text).map fun found => found.map Lexeme.token

end Spreadsheet.Expression
