/-!
# Cell styles

How a cell looks. Styles are kept and carried along with cells and never read by evaluation.

* `Style` is the look of a cell, `StylePatch` a partial one.
* `Style.apply` merges a patch into a style, field by field.
-/

namespace Spreadsheet

/-- How the text of a cell is aligned. -/
inductive Alignment
  | left
  | center
  | right
  deriving DecidableEq, Repr, Inhabited

/-- The look of a cell. -/
structure Style where
  bold : Bool := false
  italic : Bool := false
  fontSize : UInt32 := 12
  color : String := "#000000"
  backgroundColor : String := "#ffffff"
  textAlign : Alignment := .left
  deriving DecidableEq, Repr, Inhabited

/-- A partial style: absent fields leave a style as it is. -/
structure StylePatch where
  bold : Option Bool := none
  italic : Option Bool := none
  fontSize : Option UInt32 := none
  color : Option String := none
  backgroundColor : Option String := none
  textAlign : Option Alignment := none
  deriving DecidableEq, Repr, Inhabited

/-- A style with the fields of a patch in the place of its own. -/
def Style.apply (s : Style) (p : StylePatch) : Style where
  bold := p.bold.getD s.bold
  italic := p.italic.getD s.italic
  fontSize := p.fontSize.getD s.fontSize
  color := p.color.getD s.color
  backgroundColor := p.backgroundColor.getD s.backgroundColor
  textAlign := p.textAlign.getD s.textAlign

end Spreadsheet
