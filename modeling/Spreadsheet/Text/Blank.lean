/-!
# Blank characters

White space separates tokens and is cut off around numbers, arguments and trimmed texts.

* `isBlank` is the class of white-space characters of every script.
* `trim` removes them from both ends of a text, `trimStart` and `trimEnd` from one.
-/

namespace Spreadsheet.Text

/-- White space: the controls from tab to carriage return, the space, the next-line control, and
the spaces and separators beyond ASCII. -/
def isBlank (c : Char) : Bool :=
  let n := c.toNat
  (9 ≤ n && n ≤ 13) || n == 0x20 || n == 0x85 || n == 0xA0 || n == 0x1680 ||
    (0x2000 ≤ n && n ≤ 0x200A) || n == 0x2028 || n == 0x2029 || n == 0x202F || n == 0x205F ||
    n == 0x3000

/-- A text without the blanks at its start. -/
def trimStart (text : List Char) : List Char :=
  text.dropWhile isBlank

/-- A text without the blanks at its end. -/
def trimEnd (text : List Char) : List Char :=
  (text.reverse.dropWhile isBlank).reverse

/-- A text without the blanks at its ends. -/
def trim (text : List Char) : List Char :=
  trimEnd (trimStart text)

end Spreadsheet.Text
