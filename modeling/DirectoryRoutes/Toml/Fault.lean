import DirectoryRoutes.Text.Quoted

/-! Faults of TOML documents: what is wrong and where. A place is kept as the number of characters
from it to the end, which readers of the front of a text know; the whole text turns it into a line
and a column.
-/

namespace DirectoryRoutes.Toml

/-- A dotted key, from the outermost name to the innermost. -/
abbrev Key := List String

inductive Cause where
  | invalidStatement
  | expectedLineEnd
  | expectedEquals
  | invalidKeyStart
  | unterminatedString
  | illegalCharacter (c : Char)
  | invalidCharacter (c : Char)
  | expectedMark (mark : String)
  | loneBackslash
  | invalidHex
  | notScalar
  | unclosedArray
  | unclosedInlineTable
  | invalidDate
  | invalidValue
  | expectedTableEnd
  | expectedArrayEnd
  | declaredTwice (key : Key)
  | redefined (key : Key)
  | immutable (key : Key)
  | overwritten
  | duplicateInlineKey (name : String)
  /-- An integer has more digits than are read. -/
  | overlong (digits : Nat)
  /-- Arrays and inline tables are nested too deeply. -/
  | tooDeep
deriving DecidableEq, Repr

/-- A cause and the number of characters from its place to the end. -/
structure Fault where
  cause : Cause
  left : Nat
deriving DecidableEq, Repr

/-- A key as diagnostics show it; a single name is followed by a comma. -/
def keyLiteral : Key → String
  | [name] => "(" ++ Text.quote name ++ ",)"
  | names => "(" ++ String.intercalate ", " (names.map Text.quote) ++ ")"

def Cause.message : Cause → String
  | invalidStatement => "Invalid statement"
  | expectedLineEnd => "Expected newline or end of document after a statement"
  | expectedEquals => "Expected '=' after a key in a key/value pair"
  | invalidKeyStart => "Invalid initial character for a key part"
  | unterminatedString => "Unterminated string"
  | illegalCharacter c => "Illegal character " ++ Text.quote c.toString
  | invalidCharacter c => "Found invalid character " ++ Text.quote c.toString
  | expectedMark mark => "Expected " ++ Text.quote mark
  | loneBackslash => "Unescaped '\\' in a string"
  | invalidHex => "Invalid hex value"
  | notScalar => "Escaped character is not a Unicode scalar value"
  | unclosedArray => "Unclosed array"
  | unclosedInlineTable => "Unclosed inline table"
  | invalidDate => "Invalid date or datetime"
  | invalidValue => "Invalid value"
  | expectedTableEnd => "Expected ']' at the end of a table declaration"
  | expectedArrayEnd => "Expected ']]' at the end of an array declaration"
  | declaredTwice key => "Cannot declare " ++ keyLiteral key ++ " twice"
  | redefined key => "Cannot redefine namespace " ++ keyLiteral key
  | immutable key => "Cannot mutate immutable namespace " ++ keyLiteral key
  | overwritten => "Cannot overwrite a value"
  | duplicateInlineKey name => "Duplicate inline table key " ++ Text.quote name
  | overlong digits =>
      "Exceeds the limit (4300 digits) for integer string conversion: value has "
        ++ toString digits
        ++ " digits; use sys.set_int_max_str_digits() to increase the limit"
  | tooDeep => "maximum recursion depth exceeded"

/-- The line and the column, both from one, of the character after a text. -/
def coordinates (before : List Char) : String :=
  let line := before.count '\n' + 1
  let column := (before.reverse.takeWhile (· ≠ '\n')).length + 1
  "line " ++ toString line ++ ", column " ++ toString column

/-- The place of a fault in its document. -/
def Fault.place (f : Fault) (document : List Char) : String :=
  if f.left = 0 then "end of document" else coordinates (document.take (document.length - f.left))

/-- The wording of a fault. An overlong integer and too deep a nesting have no place. -/
def Fault.message (f : Fault) (document : List Char) : String :=
  match f.cause with
  | .overlong _ | .tooDeep => f.cause.message
  | cause => cause.message ++ " (at " ++ f.place document ++ ")"

end DirectoryRoutes.Toml
