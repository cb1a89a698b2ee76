import DirectoryRoutes.Page
import DirectoryRoutes.UrlPath

/-! Events: what the program reports about its work beside its answers. -/

namespace DirectoryRoutes

inductive Event where
  /-- A segment was refused by the segments before it. -/
  | rejected (segment : Segment) (before : List Segment)
  /-- A requested path is no route. -/
  | pathRefused (path : String) (reason : SegmentError)
  /-- Requested tokens are no route. -/
  | tokensRefused (tokens : List String) (reason : SegmentError)
  /-- Requests are about to be answered. -/
  | serving (host : String) (port : Int)
deriving DecidableEq, Repr

namespace Event

def level : Event → String
  | serving _ _ => "INFO"
  | _ => "DEBUG"

def source : Event → String
  | rejected _ _ => "approute.core.page"
  | pathRefused _ _ | tokensRefused _ _ => "approute.api.routes"
  | serving _ _ => "approute.server"

def message : Event → String
  | rejected segment before =>
      "Rejected " ++ segment.literal ++ " after catch-all in " ++ Segment.renderAll before
  | pathRefused path reason =>
      "Failed to parse route " ++ Text.quote path ++ ": " ++ reason.message
  | tokensRefused tokens reason =>
      "Failed to build route from " ++ (Data.list (tokens.map .text)).literal ++ ": "
        ++ reason.message
  | serving host port => "Serving routes API on " ++ host ++ ":" ++ toString port

end Event

/-- The events that come with an error: a refused segment is reported where it is refused. -/
def SegmentError.events : SegmentError → List Event
  | invalidAppend segment before => [.rejected segment before]
  | _ => []

end DirectoryRoutes
