import Spreadsheet.Text.Blank

/-!
# Argument lists

The arguments of a call are separated by commas. A comma inside parentheses or between quotation
marks separates nothing; here every quotation mark opens or closes a quotation.

* `splitArguments` cuts an argument list at its separating commas, trims the pieces and drops an
  empty last one.
* `isBalanced` says whether the parentheses of a text belong together.
-/

namespace Spreadsheet.Formula

/-- The position of a reader in an argument list: how many parentheses are open, and whether it is
between quotation marks. -/
structure Nesting where
  depth : Nat := 0
  quoted : Bool := false
  deriving DecidableEq, Repr

namespace Nesting

/-- The position after a character. A closing parenthesis that closes nothing is passed over. -/
def after (n : Nesting) (c : Char) : Nesting :=
  if c == '"' then { n with quoted := !n.quoted }
  else if n.quoted then n
  else if c == '(' then { n with depth := n.depth + 1 }
  else if c == ')' then { n with depth := n.depth - 1 }
  else n

/-- Whether a comma here separates two arguments. -/
def isTop (n : Nesting) : Bool :=
  !n.quoted && n.depth == 0

/-- Whether a closing parenthesis here closes nothing. -/
def closesNothing (n : Nesting) (c : Char) : Bool :=
  c == ')' && n.isTop

end Nesting

/-- The texts between the separating commas of a text, read from a position on. -/
def splitFrom (n : Nesting) : List Char → List (List Char)
  | [] => [[]]
  | c :: rest =>
    if c == ',' && n.isTop then [] :: splitFrom n rest
    else match splitFrom (n.after c) rest with
      | [] => [[c]]
      | piece :: pieces => (c :: piece) :: pieces

/-- A list of texts without its last one if that is empty. -/
def dropEmptyLast (pieces : List (List Char)) : List (List Char) :=
  match pieces.getLast? with
  | some [] => pieces.dropLast
  | _ => pieces

/-- The arguments of an argument list. -/
def splitArguments (text : List Char) : List (List Char) :=
  dropEmptyLast ((splitFrom {} text).map Text.trim)

/-- Whether the parentheses of a text, read from a position on, belong together. -/
def isBalancedFrom (n : Nesting) : List Char → Bool
  | [] => n.depth == 0
  | c :: rest => !n.closesNothing c && isBalancedFrom (n.after c) rest

/-- Whether every parenthesis of a text outside quotations has its partner in the text. -/
def isBalanced (text : List Char) : Bool :=
  isBalancedFrom {} text

end Spreadsheet.Formula
