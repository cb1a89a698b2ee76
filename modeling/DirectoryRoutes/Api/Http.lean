import DirectoryRoutes.Api.Routes
import DirectoryRoutes.Json.Printer
import DirectoryRoutes.Json.Reader
import DirectoryRoutes.Text.Percent

/-! The routes API over HTTP: which request reaches which handler, and how replies are written. -/

namespace DirectoryRoutes.Api

/-- A request: its method, its target as it is sent, and the octets of its body. -/
structure Request where
  method : String
  target : String
  body : List UInt8 := []

/-- A response and the events on the way to it. -/
structure Response where
  status : Nat
  contentType : String
  /-- The methods that the resource knows, if the request's was not among them. -/
  allow : Option (List String) := none
  text : String
  events : List Event := []

/-- A target without the scheme and the authority at its front, which make it absolute. -/
def withoutAuthority (target : List Char) : List Char :=
  match target.dropWhile Char.isAlphanum with
  | ':' :: '/' :: '/' :: rest => rest.dropWhile fun c => c ≠ '/' && c ≠ '?' && c ≠ '#'
  | _ => target

/-- The path of a target. If it begins with the path, that goes up to the query, or up to the
fragment if there is no query; the path of an absolute target goes up to whichever comes first.
-/
def pathOf (target : String) : List Char :=
  match target.toList with
  | '/' :: rest =>
      if rest.contains '?' then '/' :: rest.takeWhile (· ≠ '?')
      else '/' :: rest.takeWhile (· ≠ '#')
  | absolute => (withoutAuthority absolute).takeWhile fun c => c ≠ '#' && c ≠ '?'

inductive Resource where
  /-- The collection to which tokens are posted. -/
  | routes
  | route (path : String)
deriving DecidableEq, Repr

/-- The resource of a matched path. A parameter runs up to the end and holds no line break. -/
def Resource.ofPath? (path : List Char) : Option Resource :=
  let collection := "/api/routes".toList
  if path = collection then some .routes
  else
    match (collection ++ ['/']).isPrefixOf? path with
    | some rest =>
        if rest.contains '\n' then none else some (.route (String.ofList (Text.Percent.parameter rest)))
    | none => none

def Resource.methods : Resource → List String
  | routes => ["POST"]
  | route _ => ["GET", "HEAD"]

def Reply.toResponse (r : Reply) : Response where
  status := r.status
  contentType := "application/json; charset=utf-8"
  text := Json.write .compact r.body
  events := r.events

def plain (status : Nat) (text : String) (allow : Option (List String) := none) : Response where
  status
  contentType := "text/plain; charset=utf-8"
  allow
  text

/-- The response to a failure that no handler foresees. -/
def internalError : Response :=
  plain 500 "500 Internal Server Error\n\nServer got itself in trouble"

/-- The response to the octets of a posted document, in which lists and objects may be nested to a
depth.
-/
def post (depth : Nat) (fallback : Option Marker) (body : List UInt8) : Response :=
  match Text.Utf8.decode body with
  | .error _ => internalError
  | .ok text =>
      match Json.read depth text with
      | .ok d => (buildRoute fallback d).toResponse
      | .error .malformed => (reject .notJson).toResponse
      | .error .overlong => internalError
      | .error .tooDeep => internalError

/-- The response to a request, with its text even where the method asks for none. -/
def answer (depth : Nat) (fallback : Option Marker) (request : Request) : Response :=
  match Resource.ofPath? (Text.Percent.matched (pathOf request.target)) with
  | none => plain 404 "404: Not Found"
  | some resource =>
      if resource.methods.contains request.method then
        match resource with
        | .routes => post depth fallback request.body
        | .route path => (parseRoute fallback path).toResponse
      else plain 405 "405: Method Not Allowed" (some resource.methods)

def respond (depth : Nat) (fallback : Option Marker) (request : Request) : Response :=
  let response := answer depth fallback request
  if request.method = "HEAD" then { response with text := "" } else response

end DirectoryRoutes.Api
