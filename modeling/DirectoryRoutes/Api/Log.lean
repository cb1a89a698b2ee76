import DirectoryRoutes.Api.Routes

/-! Requests on the way to their answers, with the log that is written meanwhile. A page reports a
segment that it refuses and then fails; whoever answers the request catches the failure and reports
the request.
-/

namespace DirectoryRoutes

/-- An event as it stands in a log. -/
structure LogLine where
  level : String
  source : String
  message : String
deriving DecidableEq, Repr

def Event.line (event : Event) : LogLine :=
  ⟨event.level, event.source, event.message⟩

namespace Log

/-- Work that writes a log. What is written before a failure stays written. -/
abbrev Work (α : Type) :=
  EStateM SegmentError (List Event) α

def report (event : Event) : Work Unit :=
  modify (· ++ [event])

def append (p : Page) (s : Segment) : Work Page := do
  if p.isClosed && !s.isMarker then
    report (.rejected s p.segments)
    throw (.invalidAppend s p.segments)
  pure ⟨p.segments ++ [s]⟩

def appendToken (p : Page) (token : String) : Work Page := do
  if token = "" then return p
  append p (← MonadExcept.ofExcept (Segment.parse token))

def appendMarker (p : Page) : Option Marker → Work Page
  | none => pure p
  | some kind => append p (.marker kind)

/-- The page of tokens that are added one after another, with a marker behind them or none. -/
def build (tokens : List String) (marker : Option Marker) : Work Page := do
  appendMarker (← tokens.foldlM appendToken .empty) marker

/-- The status and the document of an answer. -/
abbrev Outcome :=
  Nat × Data

/-- Answers with the page that is built, or else with the reason why there is none, which is
reported as the given event.
-/
def answer (page : Work Page) (failed : SegmentError → Event) : Work Outcome := do
  try
    return (200, Api.describe (← page))
  catch reason =>
    report (failed reason)
    return (400, .record [("error", .text reason.message), ("kind", .text reason.kind)])

def parseRoute (fallback : Option Marker) (path : String) : Work Outcome :=
  answer (build (Text.components path) fallback) (.pathRefused path)

def buildRoute (fallback : Option Marker) (body : Data) : Work Outcome :=
  match Api.readRequest fallback body with
  | .ok (tokens, marker) => answer (build tokens marker) (.tokensRefused tokens)
  | .error reason => pure (400, .record [("error", .text reason.message)])

end Log

end DirectoryRoutes
