import DirectoryRoutes.Segment.Token
import DirectoryRoutes.Text.Paths

/-! Pages: the segments of a route in the order of its directories. Nothing but a marker may
directly follow a catch-all; a refused segment leaves the page as it was.
-/

namespace DirectoryRoutes

/-- A route with everything that its directories say. -/
structure Page where
  segments : List Segment
deriving DecidableEq, Repr

namespace Page

/-- The page of the root directory. -/
def empty : Page :=
  ⟨[]⟩

/-- The last segment is a catch-all, so that only a marker may follow. -/
def isClosed (p : Page) : Bool :=
  p.segments.getLast?.any Segment.isCatchAll

def append (p : Page) (s : Segment) : Except SegmentError Page :=
  if p.isClosed && !s.isMarker then .error (.invalidAppend s p.segments)
  else .ok ⟨p.segments ++ [s]⟩

/-- Reads a token and adds its segment. An empty token adds nothing. -/
def appendToken (p : Page) (token : String) : Except SegmentError Page :=
  if token = "" then .ok p
  else do
    let s ← Segment.parse token
    p.append s

def appendMarker (p : Page) : Option Marker → Except SegmentError Page
  | none => .ok p
  | some kind => p.append (.marker kind)

def ofSegments (segments : List Segment) : Except SegmentError Page :=
  segments.foldlM append empty

/-- The page of tokens that are added one after another. -/
def ofTokens (tokens : List String) : Except SegmentError Page :=
  tokens.foldlM appendToken empty

/-- The page of the components of a path. -/
def parse (path : String) : Except SegmentError Page :=
  ofTokens (Text.components path)

/-- The marker at the end, if the page has one. -/
def marker? (p : Page) : Option Marker :=
  match p.segments.getLast? with
  | some (.marker kind) => some kind
  | _ => none

def render (p : Page) : String :=
  Segment.renderAll p.segments

/-- A page as diagnostics show it. -/
def literal (p : Page) : String :=
  "AppPage(" ++ Text.quote p.render ++ ")"

end Page

end DirectoryRoutes
