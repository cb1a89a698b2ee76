import DirectoryRoutes.Data
import DirectoryRoutes.Page
import DirectoryRoutes.Segment.Record

/-! URL paths: what is left of a page when groups, parallel slots and the marker are dropped. -/

namespace DirectoryRoutes

/-- The path under which a page answers, with its placeholders. -/
structure UrlPath where
  segments : List Segment
deriving DecidableEq, Repr

namespace UrlPath

/-- The path of the routable ones among segments, in order. -/
def ofSegments (segments : List Segment) : UrlPath :=
  ⟨segments.filter Segment.isRoutable⟩

/-- Some segment is a placeholder. -/
def isDynamic (u : UrlPath) : Bool :=
  u.segments.any fun
    | .static _ => false
    | _ => true

def render (u : UrlPath) : String :=
  Segment.renderAll u.segments

def toData (u : UrlPath) : Data :=
  .record [("path", .text u.render), ("segments", .list (u.segments.map Segment.toData))]

/-- A path as diagnostics show it; a single segment is followed by a comma. -/
def literal (u : UrlPath) : String :=
  let inner :=
    match u.segments with
    | [s] => s.literal ++ ","
    | segments => String.intercalate ", " (segments.map Segment.literal)
  "AppPath(segments=(" ++ inner ++ "))"

end UrlPath

def Page.urlPath (p : Page) : UrlPath :=
  UrlPath.ofSegments p.segments

end DirectoryRoutes
