import DirectoryRoutes.Text.Quoted

/-! Segments: what a directory of a route tree contributes to the routes below it. Four shapes are
part of the URL; groups, parallel slots and the closing marker are not.
-/

namespace DirectoryRoutes

/-- The kind of leaf in which a route ends. -/
inductive Marker where
  | page
  | route
deriving DecidableEq, Repr

namespace Marker

def word : Marker → String
  | page => "page"
  | route => "route"

def ofWord? (word : String) : Option Marker :=
  if word = "page" then some page else if word = "route" then some route else none

end Marker

/-- One component of a route. -/
inductive Segment where
  /-- A component that stands for itself. -/
  | static (name : String)
  /-- A placeholder for one component. -/
  | dynamic (name : String)
  /-- A placeholder for one or more components. -/
  | catchAll (name : String)
  /-- A placeholder for any number of components. -/
  | optionalCatchAll (name : String)
  /-- A grouping of routes. -/
  | group (name : String)
  /-- A slot that is rendered beside its siblings. -/
  | parallel (name : String)
  /-- The end of a route. -/
  | marker (kind : Marker)
deriving DecidableEq, Repr

namespace Segment

/-- The segment is part of the URL. -/
def isRoutable : Segment → Bool
  | static _ | dynamic _ | catchAll _ | optionalCatchAll _ => true
  | group _ | parallel _ | marker _ => false

/-- The segment takes all components that remain. -/
def isCatchAll : Segment → Bool
  | catchAll _ | optionalCatchAll _ => true
  | _ => false

def isMarker : Segment → Bool
  | marker _ => true
  | _ => false

def shape : Segment → String
  | static _ => "static"
  | dynamic _ => "dynamic"
  | catchAll _ => "catch_all"
  | optionalCatchAll _ => "optional_catch_all"
  | group _ => "group"
  | parallel _ => "parallel"
  | marker _ => "page_type"

/-- The name of a segment; that of a marker is its word. -/
def name : Segment → String
  | static name | dynamic name | catchAll name | optionalCatchAll name => name
  | group name | parallel name => name
  | marker kind => kind.word

def render : Segment → String
  | static name => name
  | dynamic name => "[" ++ name ++ "]"
  | catchAll name => "[..." ++ name ++ "]"
  | optionalCatchAll name => "[[..." ++ name ++ "]]"
  | group name => "(" ++ name ++ ")"
  | parallel name => "@" ++ name
  | marker kind => kind.word

/-- A segment as diagnostics show it. -/
def literal : Segment → String
  | static name => "Static(name=" ++ Text.quote name ++ ")"
  | dynamic name => "Dynamic(name=" ++ Text.quote name ++ ")"
  | catchAll name => "CatchAll(name=" ++ Text.quote name ++ ")"
  | optionalCatchAll name => "OptionalCatchAll(name=" ++ Text.quote name ++ ")"
  | group name => "Group(name=" ++ Text.quote name ++ ")"
  | parallel name => "Parallel(name=" ++ Text.quote name ++ ")"
  | marker .page => "<PageType.PAGE: 'page'>"
  | marker .route => "<PageType.ROUTE: 'route'>"

/-- The text of a sequence of segments, each after a separator; a separator alone if there are
none.
-/
def renderAll (segments : List Segment) : String :=
  if segments.isEmpty then "/" else String.join (segments.map fun s => "/" ++ s.render)

end Segment

end DirectoryRoutes
