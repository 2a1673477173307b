import Spreadsheet.Config.Basic
import Spreadsheet.Config.Integer

/-!
# Configuration documents

A configuration is written in TOML. Every setting is an integer of its own line, in any order and
at most once; a setting that is left out has its default. All that a document may hold besides are
blank lines and comments: any other key, table or kind of value fits no setting and is refused.

* `Setting` lists the settings with their names and bounds.
* `Config.ofDocument` reads a document.
-/

namespace Spreadsheet.Config

/-- What a document can set. -/
inductive Setting
  | rows
  | columns
  | defaultRowHeight
  | defaultColumnWidth
  deriving DecidableEq, Repr

namespace Setting

/-- The setting of a key. -/
def ofName? (name : List Char) : Option Setting :=
  match String.ofList name with
  | "rows" => some rows
  | "columns" => some columns
  | "default_row_height" => some defaultRowHeight
  | "default_column_width" => some defaultColumnWidth
  | _ => none

/-- The configuration with another value of a setting, if the setting can have it: counts are not
negative, and sizes fit 32 bits besides. -/
def assign? (s : Setting) (value : Int) (c : Config) : Option Config :=
  match value with
  | .negSucc _ => none
  | .ofNat n =>
    match s with
    | rows => some { c with rows := n }
    | columns => some { c with columns := n }
    | defaultRowHeight =>
      if n < 4294967296 then some { c with defaultRowHeight := .ofNat n } else none
    | defaultColumnWidth =>
      if n < 4294967296 then some { c with defaultColumnWidth := .ofNat n } else none

end Setting

/-! ## Lines -/

/-- The lines of a document. A line ends with a line feed, which a carriage return may precede. -/
def lines : List Char → List (List Char)
  | [] => [[]]
  | '\n' :: rest => [] :: lines rest
  | '\r' :: '\n' :: rest => [] :: lines rest
  | c :: rest =>
    match lines rest with
    | [] => [[c]]
    | line :: more => (c :: line) :: more

/-- The blanks within a line. -/
def isGap (c : Char) : Bool :=
  c == ' ' || c == '\t'

/-- A line without the blanks at its start. -/
def skipGap (line : List Char) : List Char :=
  line.dropWhile isGap

/-- The characters of comments: all but the controls, the tab excepted. -/
def isCommentChar (c : Char) : Bool :=
  c == '\t' || (0x20 ≤ c.toNat && c.toNat != 0x7F)

/-- Whether the rest of a line holds nothing, a comment apart. -/
def isEnd (line : List Char) : Bool :=
  match skipGap line with
  | [] => true
  | '#' :: comment => comment.all isCommentChar
  | _ => false

/-! ## Keys -/

/-- The characters of keys without quotation marks. -/
def isKeyChar (c : Char) : Bool :=
  c.isAlphanum || c == '_' || c == '-'

/-- The character of a hexadecimal code point. -/
def codeChar? (digits : List Char) : Option Char := do
  let values ← digits.mapM (digitValue? 16)
  let code := values.foldl (fun n d => n * 16 + d) 0
  if h : code.isValidChar then some (Char.ofNatAux code h) else none

/-- The rest of a key between quotation marks, and what follows it. Escapes other than code points
write characters that no setting's name has, so they are not read. -/
def quotedKey? : List Char → Option (List Char × List Char)
  | [] => none
  | '"' :: rest => some ([], rest)
  | '\\' :: 'u' :: a :: b :: c :: d :: rest => do
    let char ← codeChar? [a, b, c, d]
    let (key, rest) ← quotedKey? rest
    return (char :: key, rest)
  | '\\' :: 'U' :: a :: b :: c :: d :: e :: f :: g :: h :: rest => do
    let char ← codeChar? [a, b, c, d, e, f, g, h]
    let (key, rest) ← quotedKey? rest
    return (char :: key, rest)
  | '\\' :: _ => none
  | c :: rest => do
    let (key, rest) ← quotedKey? rest
    return (c :: key, rest)

/-- The mark around keys that are taken as they stand. -/
def isApostrophe (c : Char) : Bool :=
  c.toNat == 0x27

/-- The key at the start of a line, and what follows it. -/
def key? : List Char → Option (List Char × List Char)
  | [] => none
  | c :: rest =>
    if c == '"' then quotedKey? rest
    else if isApostrophe c then
      match rest.dropWhile (!isApostrophe ·) with
      | [] => none
      | _ :: after => some (rest.takeWhile (!isApostrophe ·), after)
    else some ((c :: rest).takeWhile isKeyChar, (c :: rest).dropWhile isKeyChar)

/-! ## Documents -/

/-- The characters of a value. -/
def isValueChar (c : Char) : Bool :=
  c.isAlphanum || c == '_' || c == '+' || c == '-'

/-- The setting on a line and its value. -/
def assignment? (line : List Char) : Option (Setting × Int) := do
  let (key, rest) ← key? line
  let setting ← Setting.ofName? key
  match skipGap rest with
  | '=' :: rest =>
    let text := skipGap rest
    let value ← integer? (text.takeWhile isValueChar)
    if isEnd (text.dropWhile isValueChar) then some (setting, value) else none
  | _ => none

/-- A configuration and the settings that have been made in it. -/
structure Draft where
  config : Config := {}
  made : List Setting := []

/-- The draft after one more line. -/
def Draft.read? (d : Draft) (line : List Char) : Option Draft :=
  if isEnd line then some d
  else do
    let (setting, value) ← assignment? (skipGap line)
    if d.made.contains setting then none
    let config ← setting.assign? value d.config
    return ⟨config, setting :: d.made⟩

/-- A document without the byte-order mark that it may start with. -/
def withoutMark : List Char → List Char
  | [] => []
  | c :: rest => if c.toNat == 0xFEFF then rest else c :: rest

/-- The configuration that a document writes. -/
def ofDocument (document : String) : Except SheetError Config :=
  match (lines (withoutMark document.toList)).foldlM Draft.read? {} with
  | some draft => draft.config.validate
  | none => .error .invalidConfig

end Spreadsheet.Config
