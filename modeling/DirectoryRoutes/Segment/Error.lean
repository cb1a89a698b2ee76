import DirectoryRoutes.Segment

/-! What can go wrong while tokens are read and segments are put together. -/

namespace DirectoryRoutes

inductive SegmentError where
  | emptySegment
  | illegalSlash (token : String)
  /-- A segment was to follow a catch-all that ends the segments before it. -/
  | invalidAppend (segment : Segment) (before : List Segment)
deriving DecidableEq, Repr

namespace SegmentError

def kind : SegmentError → String
  | emptySegment => "empty_segment"
  | illegalSlash _ => "illegal_slash"
  | invalidAppend _ _ => "invalid_append"

def message : SegmentError → String
  | emptySegment => "empty segments are not allowed"
  | illegalSlash token => "slashes are not allowed in segments: " ++ Text.quote token
  | invalidAppend segment _ =>
      "Invalid segment " ++ segment.render ++ ", catch all segment must be the last segment"

end SegmentError

end DirectoryRoutes
