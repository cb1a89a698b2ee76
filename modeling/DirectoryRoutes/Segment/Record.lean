import DirectoryRoutes.Data.Literal
import DirectoryRoutes.Segment

/-! Segments as records with a type and a name. -/

namespace DirectoryRoutes

/-- Why a value is not the record of a segment. -/
inductive SegmentRecordError where
  | notRecord
  | nameNotText
  | unknownMarker (name : String)
  | unknownShape (shape : Data)

def SegmentRecordError.message : SegmentRecordError → String
  | notRecord => "segment must be a dictionary"
  | nameNotText => "segment.name must be a string"
  | unknownMarker name => "Unknown page type: " ++ name
  | unknownShape shape => "Unknown segment type: " ++ shape.display

namespace Segment

def toData (s : Segment) : Data :=
  .record [("type", .text s.shape), ("name", .text s.name)]

/-- The segment of a shape other than the marker's. -/
def ofShape? (shape name : String) : Option Segment :=
  if shape = "static" then some (static name)
  else if shape = "dynamic" then some (dynamic name)
  else if shape = "catch_all" then some (catchAll name)
  else if shape = "optional_catch_all" then some (optionalCatchAll name)
  else if shape = "group" then some (group name)
  else if shape = "parallel" then some (parallel name)
  else none

def ofTypeAndName (type : Data) (name : String) : Except SegmentRecordError Segment :=
  match type with
  | .text "page_type" =>
      match Marker.ofWord? name with
      | some kind => .ok (marker kind)
      | none => .error (.unknownMarker name)
  | .text shape =>
      match ofShape? shape name with
      | some s => .ok s
      | none => .error (.unknownShape type)
  | _ => .error (.unknownShape type)

/-- Reads the record of a segment. The name is looked at before the type. -/
def ofData (d : Data) : Except SegmentRecordError Segment :=
  match d with
  | .record _ =>
      match d.field? "name" with
      | some (.text name) => ofTypeAndName (d.fieldOrNull "type") name
      | _ => .error .nameNotText
  | _ => .error .notRecord

end Segment

end DirectoryRoutes
