import Spreadsheet.Text.Ranges
import Spreadsheet.Text.HiddenTable

/-!
# Quotations

Messages quote the characters and texts that they speak of, so that every one of them can be seen.

* `quoteChar` puts a character between apostrophes and `quoteText` a text between quotation marks.
* `escape` writes a character of either: the usual controls by a letter, other characters that do
  not show by their code point.
-/

namespace Spreadsheet.Text

/-- Whether a character shows as itself in a quotation. -/
def isVisible (c : Char) : Bool :=
  if c.toNat < 128 then 0x20 ≤ c.toNat && c.toNat < 0x7F else !within hiddenRanges c.toNat

/-- The code point of a character in hexadecimal. -/
def escapeCode (c : Char) : List Char :=
  "\\u\x7b".toList ++ Nat.toDigits 16 c.toNat ++ "\x7d".toList

/-- A character as it is written in a quotation whose own mark is another character. -/
def escape (c : Char) : List Char :=
  if c.toNat == 0 then ['\\', '0']
  else if c == '\t' then ['\\', 't']
  else if c == '\r' then ['\\', 'r']
  else if c == '\n' then ['\\', 'n']
  else if c == '\\' then ['\\', '\\']
  else if isVisible c then [c]
  else escapeCode c

/-- A character in a quotation that is closed by `mark`. -/
def escapeWithin (mark c : Char) : List Char :=
  if c == mark then ['\\', mark] else escape c

/-- The mark around a quoted character. -/
def apostrophe : Char :=
  Char.ofNat 0x27

/-- A quoted character. -/
def quoteChar (c : Char) : String :=
  String.ofList ([apostrophe] ++ escapeWithin apostrophe c ++ [apostrophe])

/-- A quoted text. -/
def quoteText (text : List Char) : String :=
  String.ofList (['"'] ++ text.flatMap (escapeWithin '"') ++ ['"'])

end Spreadsheet.Text
