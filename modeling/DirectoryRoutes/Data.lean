import DirectoryRoutes.Table

/-! Decoded documents: the values that a configuration file, a request body or a stored segment
can hold.
-/

namespace DirectoryRoutes

/-- A value of a decoded document. -/
inductive Data where
  | null
  | bool (value : Bool)
  | int (value : Int)
  | float (value : Float)
  | text (value : String)
  /-- A date or a time of day, as it is written. -/
  | moment (written : String)
  | list (items : List Data)
  | record (fields : List (String × Data))

namespace Data

def field? (name : String) : Data → Option Data
  | record fields => Table.get? name fields
  | _ => none

/-- The value of a field of a record, null when it is missing. -/
def fieldOrNull (name : String) (d : Data) : Data :=
  (d.field? name).getD null

end Data

end DirectoryRoutes
