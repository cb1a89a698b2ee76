import DirectoryRoutes.Page
import DirectoryRoutes.Segment.Record

/-! Pages as records with their text and the records of their segments. Only the segments are read
back.
-/

namespace DirectoryRoutes

/-- Why a value is not the record of a page. -/
inductive PageRecordError where
  | notRecord
  | segmentsNotList
  | segment (reason : SegmentRecordError)
  | order (reason : SegmentError)

def PageRecordError.message : PageRecordError → String
  | notRecord => "page must be a dictionary"
  | segmentsNotList => "page.segments must be a list"
  | segment reason => reason.message
  | order reason => reason.message

namespace Page

def toData (p : Page) : Data :=
  .record [("page", .text p.render), ("segments", .list (p.segments.map Segment.toData))]

/-- Reads the record of a page: first every segment, then their order. -/
def ofData (d : Data) : Except PageRecordError Page :=
  match d with
  | .record _ =>
      match d.field? "segments" with
      | some (.list items) => do
          let segments ← (items.mapM Segment.ofData).mapError .segment
          (ofSegments segments).mapError .order
      | _ => .error .segmentsNotList
  | _ => .error .notRecord

end Page

end DirectoryRoutes
