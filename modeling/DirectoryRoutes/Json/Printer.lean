import DirectoryRoutes.Data
import DirectoryRoutes.Decimal.Notation
import DirectoryRoutes.Text.Hex

/-! JSON texts of values, in plain ASCII: on one line, or with one item or field a line. -/

namespace DirectoryRoutes.Json

/-- One sixteen-bit unit as an escape. -/
def unitEscape (unit : Nat) : List Char :=
  '\\' :: 'u' :: Text.Hex.padded 4 unit

/-- One character of a text. Beyond the first plane it takes a pair of units. -/
def escape (c : Char) : List Char :=
  if c = '"' || c = '\\' then ['\\', c]
  else if c = '\n' then ['\\', 'n']
  else if c = '\r' then ['\\', 'r']
  else if c = '\t' then ['\\', 't']
  else if c = '\x08' then ['\\', 'b']
  else if c = '\x0c' then ['\\', 'f']
  else if ' ' ≤ c && c ≤ '~' then [c]
  else if c.toNat < 0x10000 then unitEscape c.toNat
  else
    let offset := c.toNat - 0x10000
    unitEscape (0xD800 + offset / 0x400) ++ unitEscape (0xDC00 + offset % 0x400)

def writeText (s : String) : String :=
  String.ofList ('"' :: s.toList.flatMap escape ++ ['"'])

/-- A float; the values that are not finite have words of their own. -/
def writeFloat (x : Float) : String :=
  if x.isNaN then "NaN"
  else if x.isInf then if x < 0 then "-Infinity" else "Infinity"
  else Decimal.write x

/-- How a document is broken into lines. -/
structure Style where
  /-- What follows an opening character, given the depth inside it. -/
  opened : Nat → String
  /-- What stands between two items. -/
  between : Nat → String
  /-- What comes before a closing character, given the depth outside it. -/
  closed : Nat → String

/-- A line break and two spaces for each level. -/
def newLine (depth : Nat) : String :=
  "\n" ++ "".pushn ' ' (2 * depth)

/-- Everything on one line. -/
def Style.compact : Style where
  opened _ := ""
  between _ := ", "
  closed _ := ""

/-- Every item and field on a line of its own. -/
def Style.indented : Style where
  opened := newLine
  between depth := "," ++ newLine depth
  closed := newLine

/-- Items between brackets; an empty list or object stays closed. -/
def Style.enclose (style : Style) (depth : Nat) (opening closing : String) (items : List String)
    : String :=
  if items.isEmpty then opening ++ closing
  else
    opening ++ style.opened (depth + 1) ++ String.intercalate (style.between (depth + 1)) items
      ++ style.closed depth ++ closing

mutual

def writeAt (style : Style) (depth : Nat) : Data → String
  | .null => "null"
  | .bool value => if value then "true" else "false"
  | .int value => toString value
  | .float value => writeFloat value
  | .text value => writeText value
  | .moment written => writeText written
  | .list items => style.enclose depth "[" "]" (writeItems style (depth + 1) items)
  | .record fields =>
      style.enclose depth "\x7b" "\x7d" (writeFields style (depth + 1) fields)

def writeItems (style : Style) (depth : Nat) : List Data → List String
  | [] => []
  | item :: items => writeAt style depth item :: writeItems style depth items

def writeFields (style : Style) (depth : Nat) : List (String × Data) → List String
  | [] => []
  | (name, value) :: fields =>
      (writeText name ++ ": " ++ writeAt style depth value) :: writeFields style depth fields

end

def write (style : Style) (d : Data) : String :=
  writeAt style 0 d

end DirectoryRoutes.Json
