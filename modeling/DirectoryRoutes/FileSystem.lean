import DirectoryRoutes.Text.Paths

/-! File systems without links: which places exist and what they hold. A place is reached from a
directory by the names on the way, each of which must exist.
-/

namespace DirectoryRoutes

/-- An absolute place, its innermost name first; the parent of a place is its tail. -/
abbrev Place := List String

def Place.text (place : Place) : String :=
  "/" ++ String.intercalate "/" place.reverse

/-- The most octets in a path. -/
def pathLimit : Nat :=
  4095

/-- The path of a place has more octets than a path can have. -/
def Place.isOverlong (place : Place) : Bool :=
  place.text.utf8ByteSize > pathLimit

/-- What exists at a place. -/
inductive Entry where
  | file (octets : List UInt8)
  | directory
deriving DecidableEq, Repr

structure FileSystem where
  entry? : Place → Option Entry

namespace FileSystem

/-- The file system that holds files, directories and whatever they lie in. -/
def ofLists (files : List (Place × List UInt8)) (directories : List Place) : FileSystem where
  entry? place :=
    match files.lookup place with
    | some octets => some (.file octets)
    | none =>
        if (files.map Prod.fst ++ directories).any place.isSuffixOf then some .directory else none

def isPresent (fs : FileSystem) (place : Place) : Bool :=
  (fs.entry? place).isSome

/-- A directory exists at a place; there always is one at the root. -/
def isDirectory (fs : FileSystem) (place : Place) : Bool :=
  match place with
  | [] => true
  | _ => fs.entry? place = some .directory

/-- Why names lead nowhere. -/
inductive Obstacle where
  | missing
  /-- A name has more octets than the names of entries can have. -/
  | overlong
deriving DecidableEq, Repr

/-- The most octets in the name of an entry. -/
def nameLimit : Nat :=
  255

/-- The existing place to which names lead from a place. Empty names and single dots stay, double
dots go to the parent.
-/
def follow (fs : FileSystem) (place : Place) : List String → Except Obstacle Place
  | [] => .ok place
  | name :: names =>
      if !fs.isDirectory place then .error .missing
      else if name = "" || name = "." then follow fs place names
      else if name = ".." then follow fs place.tail names
      else if name.utf8ByteSize > nameLimit then .error .overlong
      else if fs.isPresent (name :: place) then follow fs (name :: place) names
      else .error .missing

end FileSystem

/-- A path as it is named: its absolute beginning, if any, and the names on the way, without empty
ones and single dots.
-/
structure PathName where
  root : String
  names : List String
deriving DecidableEq, Repr

namespace PathName

/-- The absolute beginning of a text. Exactly two separators are kept apart from any other number
of them.
-/
def rootOf (text : String) : String :=
  match text.toList with
  | '/' :: '/' :: '/' :: _ => "/"
  | '/' :: '/' :: _ => "//"
  | '/' :: _ => "/"
  | _ => ""

def ofText (text : String) : PathName :=
  ⟨rootOf text, (Text.components text).filter fun name => name ≠ "" && name ≠ "."⟩

/-- The text of a path; a dot if there is nothing else to write. -/
def text (path : PathName) : String :=
  if path.root = "" && path.names.isEmpty then "."
  else path.root ++ String.intercalate "/" path.names

def start (path : PathName) (workingDirectory : Place) : Place :=
  if path.root = "" then workingDirectory else []

end PathName

def FileSystem.locate (fs : FileSystem) (workingDirectory : Place) (path : PathName)
    : Except FileSystem.Obstacle Place :=
  if path.text.utf8ByteSize > pathLimit then .error .overlong
  else fs.follow (path.start workingDirectory) path.names

/-- A text as it is written names something that exists; an empty text names nothing. -/
def FileSystem.names (fs : FileSystem) (workingDirectory : Place) (text : String) : Bool :=
  text ≠ "" && text.utf8ByteSize ≤ pathLimit
    && (fs.follow ((PathName.ofText text).start workingDirectory) (Text.components text)).isOk

end DirectoryRoutes
