import Spreadsheet.Grid
import Spreadsheet.Interchange.Data

/-!
# Cells as structured data

Addresses, values, styles and cells are written as records of named members. Alternatives are
written by name, and those that carry data as a record of that one name.

* `toData` writes and `ofData?` reads, for each of the types.
-/

namespace Spreadsheet

namespace Address

/-- An address as data. -/
def toData (a : Address) : Data :=
  .record [("row", .integer a.row.val), ("col", .integer a.column.val)]

/-- The address that data describe. -/
def ofData? (d : Data) : Option Address := do
  match ← d.members? ["row", "col"] false with
  | [some row, some column] =>
    let row ← row.toNat? Coord.count
    let column ← column.toNat? Coord.count
    return ⟨← Coord.ofNat? row, ← Coord.ofNat? column⟩
  | _ => none

end Address

namespace CellError

/-- An error as data. -/
def toData : CellError → Data
  | circular => .text "Circular"
  | reference => .text "Ref"
  | fault => .text "Error"
  | unknownFunction name => .record [("UnknownFunction", .text name)]

/-- The error that data describe. -/
def ofData? (d : Data) : Option CellError := do
  match ← d.variant? with
  | ("Circular", x) => if Data.carriesNothing x then some circular else none
  | ("Ref", x) => if Data.carriesNothing x then some reference else none
  | ("Error", x) => if Data.carriesNothing x then some fault else none
  | ("UnknownFunction", some x) => x.toText?.map unknownFunction
  | _ => none

end CellError

namespace Value

/-- A value as data. -/
def toData : Value → Data
  | null => .text "Null"
  | number x => .record [("Number", .decimal x)]
  | text s => .record [("Text", .text s)]
  | error e => .record [("Error", e.toData)]

/-- The value that data describe. -/
def ofData? (d : Data) : Option Value := do
  match ← d.variant? with
  | ("Null", x) => if Data.carriesNothing x then some null else none
  | ("Number", some x) => x.toFloat?.map number
  | ("Text", some x) => x.toText?.map text
  | ("Error", some x) => (CellError.ofData? x).map error
  | _ => none

end Value

namespace Alignment

/-- The name of an alignment. -/
def name : Alignment → String
  | left => "left"
  | center => "center"
  | right => "right"

/-- An alignment as data. -/
def toData (a : Alignment) : Data :=
  .text a.name

/-- The alignment that data describe. -/
def ofData? (d : Data) : Option Alignment := do
  let (name, x) ← d.variant?
  if Data.carriesNothing x then [left, center, right].find? (·.name == name) else none

end Alignment

/-- The font size that data describe. -/
def fontSizeOfData? (d : Data) : Option UInt32 :=
  (d.toNat? 4294967296).map UInt32.ofNat

/-- The names of the members of a style. -/
def styleMembers : List String :=
  ["bold", "italic", "font_size", "color", "background_color", "text_align"]

namespace Style

/-- A style as data. -/
def toData (s : Style) : Data :=
  .record (styleMembers.zip
    [.bool s.bold, .bool s.italic, .integer s.fontSize.toNat, .text s.color,
     .text s.backgroundColor, s.textAlign.toData])

/-- The style that data describe. -/
def ofData? (d : Data) : Option Style := do
  match ← d.members? styleMembers false with
  | [some bold, some italic, some fontSize, some color, some backgroundColor, some textAlign] =>
    return {
      bold := ← bold.toBool?
      italic := ← italic.toBool?
      fontSize := ← fontSizeOfData? fontSize
      color := ← color.toText?
      backgroundColor := ← backgroundColor.toText?
      textAlign := ← Alignment.ofData? textAlign }
  | _ => none

end Style

namespace StylePatch

/-- A patch as data. -/
def toData (p : StylePatch) : Data :=
  .record (styleMembers.zip
    [.ofOption .bool p.bold, .ofOption .bool p.italic,
     .ofOption (fun n : UInt32 => .integer n.toNat) p.fontSize, .ofOption .text p.color,
     .ofOption .text p.backgroundColor, .ofOption Alignment.toData p.textAlign])

/-- The patch that data describe. All members are optional. -/
def ofData? (d : Data) : Option StylePatch := do
  match ← d.members? styleMembers true with
  | [bold, italic, fontSize, color, backgroundColor, textAlign] =>
    return {
      bold := ← Data.optional? Data.toBool? bold
      italic := ← Data.optional? Data.toBool? italic
      fontSize := ← Data.optional? fontSizeOfData? fontSize
      color := ← Data.optional? Data.toText? color
      backgroundColor := ← Data.optional? Data.toText? backgroundColor
      textAlign := ← Data.optional? Alignment.ofData? textAlign }
  | _ => none

end StylePatch

namespace Cell

/-- A cell as data. -/
def toData (c : Cell) : Data :=
  .record [("raw", .text c.raw), ("formula", Data.ofOption .text c.formula),
    ("computed", c.computed.toData), ("style", c.style.toData)]

/-- The cell that data describe. Only the formula is optional. -/
def ofData? (d : Data) : Option Cell := do
  match ← d.members? ["raw", "formula", "computed", "style"] false with
  | [some raw, formula, some computed, some style] =>
    return {
      raw := ← raw.toText?
      formula := ← Data.optional? Data.toText? formula
      computed := ← Value.ofData? computed
      style := ← Style.ofData? style }
  | _ => none

end Cell

end Spreadsheet
