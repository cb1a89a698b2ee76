import DirectoryRoutes.Event

/-! The two ways to ask for a route: by its path, and by its tokens with a choice of marker. Both
answer with the page, its URL path and the segments of each, or with the reason for a refusal.
-/

namespace DirectoryRoutes.Api

/-- What a request is answered: a status and a document, and the events on the way. -/
structure Reply where
  status : Nat
  body : Data
  events : List Event := []

def describe (page : Page) : Data :=
  .record
    [("page", .text page.render),
     ("path", .text page.urlPath.render),
     ("segments", .list (page.segments.map Segment.toData)),
     ("pathSegments", .list (page.urlPath.segments.map Segment.toData))]

/-- The reply to a request that names no route. -/
def refuse (reason : SegmentError) (event : Event) : Reply where
  status := 400
  body := .record [("error", .text reason.message), ("kind", .text reason.kind)]
  events := reason.events ++ [event]

/-- The reply to a request for a route by its path. -/
def parseRoute (fallback : Option Marker) (path : String) : Reply :=
  match Page.parse path >>= (·.appendMarker fallback) with
  | .ok page => ⟨200, describe page, []⟩
  | .error reason => refuse reason (.pathRefused path reason)

/-- Why a document is not a request for a route. -/
inductive RequestError where
  | notJson
  | notObject
  | segmentsNotTexts
  | unknownMarker (type : Data)

def RequestError.message : RequestError → String
  | notJson => "Invalid JSON body"
  | notObject => "Body must be an object"
  | segmentsNotTexts => "segments must be a list of strings"
  | unknownMarker type => "Unknown page type: " ++ type.display

def reject (reason : RequestError) : Reply where
  status := 400
  body := .record [("error", .text reason.message)]

/-- The texts of a list that holds nothing else. -/
def texts? : List Data → Option (List String)
  | [] => some []
  | .text s :: items => (texts? items).map (s :: ·)
  | _ :: _ => none

def readTokens (body : Data) : Except RequestError (List String) :=
  match body.field? "segments" with
  | some (.list items) =>
      match texts? items with
      | some tokens => .ok tokens
      | none => .error .segmentsNotTexts
  | _ => .error .segmentsNotTexts

/-- The value by which a request chooses a marker, or none. -/
def choice : Option Marker → Data
  | none => .null
  | some kind => .text kind.word

/-- The marker that a request chooses: the default if it says nothing, none if it says null. The
default goes through the same check as what a request says.
-/
def readMarker (fallback : Option Marker) (body : Data) : Except RequestError (Option Marker) :=
  match (body.field? "type").getD (choice fallback) with
  | .null => .ok none
  | .text word =>
      match Marker.ofWord? word with
      | some kind => .ok (some kind)
      | none => .error (.unknownMarker (.text word))
  | type => .error (.unknownMarker type)

def readRequest (fallback : Option Marker) (body : Data)
    : Except RequestError (List String × Option Marker) :=
  match body with
  | .record _ => do
      let tokens ← readTokens body
      let marker ← readMarker fallback body
      pure (tokens, marker)
  | _ => .error .notObject

/-- The reply to a request for a route by its tokens. -/
def buildRoute (fallback : Option Marker) (body : Data) : Reply :=
  match readRequest fallback body with
  | .error reason => reject reason
  | .ok (tokens, marker) =>
      match Page.ofTokens tokens >>= (·.appendMarker marker) with
      | .ok page => ⟨200, describe page, []⟩
      | .error reason => refuse reason (.tokensRefused tokens reason)

end DirectoryRoutes.Api
