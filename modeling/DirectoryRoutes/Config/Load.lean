import DirectoryRoutes.Config
import DirectoryRoutes.FileSystem
import DirectoryRoutes.Text.Utf8
import DirectoryRoutes.Toml.Reader

/-! Loading settings: from the document of a given path, or from the nearest one in the working
directory and the directories above it. A path that is too long to ask for what it leads to is an
error in either case.
-/

namespace DirectoryRoutes

/-- The name of the document that is looked for. -/
def configName : String :=
  "approute.toml"

inductive LoadError where
  | notFound (path : String)
  /-- The path is longer than paths can be, or a name on its way is. -/
  | overlongName (path : String)
  | isDirectory
  | notUtf8 (fault : Text.Utf8.Fault)
  | notToml (fault : Toml.Fault) (document : List Char)
  | setting (reason : SettingError)

/-- The wording of the error; a directory in the place of a file is not described. -/
def LoadError.message : LoadError → String
  | notFound path => "Configuration file not found: " ++ path
  | overlongName path => "[Errno 36] File name too long: " ++ Text.quote path
  | isDirectory => ""
  | notUtf8 fault => fault.message
  | notToml fault document => fault.message document
  | setting reason => reason.message

namespace Config

/-- The settings of a document, given the room for what is nested in it. -/
def ofOctets (room : Nat) (source : String) (octets : List UInt8) : Except LoadError Config := do
  let text ← (Text.Utf8.decode octets).mapError .notUtf8
  let document ← (Toml.read room text).mapError fun (fault, lines) => .notToml fault lines
  (ofDocument source document).mapError .setting

def ofPlace (room : Nat) (fs : FileSystem) (source : String) (place : Place)
    : Except LoadError Config :=
  match fs.entry? place with
  | some (.file octets) => ofOctets room source octets
  | _ => .error .isDirectory

/-- The nearest place with the document's name, in a directory or above it. -/
def discover (fs : FileSystem) (directory : Place) : Except LoadError (Option Place) :=
  let document : Place := configName :: directory
  if document.isOverlong then .error (.overlongName document.text)
  else if fs.isPresent document then .ok (some document)
  else
    match directory with
    | [] => .ok none
    | _ :: parent => discover fs parent

/-- The settings of a given path, or else of the nearest document, or else the defaults. -/
def load (room : Nat) (fs : FileSystem) (workingDirectory : Place) (path : Option PathName)
    : Except LoadError Config :=
  match path with
  | some path =>
      match fs.locate workingDirectory path with
      | .ok place => ofPlace room fs path.text place
      | .error .missing => .error (.notFound path.text)
      | .error .overlong => .error (.overlongName path.text)
  | none =>
      match discover fs workingDirectory with
      | .ok (some place) => ofPlace room fs place.text place
      | .ok none => .ok {}
      | .error e => .error e

end Config

end DirectoryRoutes
