import DirectoryRoutes.Data
import DirectoryRoutes.Decimal.Notation
import DirectoryRoutes.Text.Quoted

/-! Values as diagnostics show them: texts quoted, lists in brackets, records in braces with their
fields in order. A text that is a message of its own stands without quotation marks.
-/

namespace DirectoryRoutes.Data

mutual

def literal : Data → String
  | null => "None"
  | bool value => if value then "True" else "False"
  | int value => toString value
  | float value => Decimal.write value
  | text value => Text.quote value
  | moment written => written
  | list items => "[" ++ String.intercalate ", " (literalItems items) ++ "]"
  | record fields => "\x7b" ++ String.intercalate ", " (literalFields fields) ++ "\x7d"

def literalItems : List Data → List String
  | [] => []
  | item :: items => literal item :: literalItems items

def literalFields : List (String × Data) → List String
  | [] => []
  | (name, value) :: fields => (Text.quote name ++ ": " ++ literal value) :: literalFields fields

end

/-- A value inside a sentence: a text as it is, anything else by its literal. -/
def display : Data → String
  | text value => value
  | value => value.literal

end DirectoryRoutes.Data
