import DirectoryRoutes.Data
import DirectoryRoutes.Segment

/-! Settings: where the server listens and which marker ends a route by default. They come from
the sections of a document, and a command may override them one by one.
-/

namespace DirectoryRoutes

/-- Where the server listens. -/
structure ServerSettings where
  host : String := "127.0.0.1"
  port : Int := 8080
deriving DecidableEq, Repr

structure Config where
  server : ServerSettings := {}
  /-- The marker that ends a route, unless a request chooses another. -/
  marker : Option Marker := some .page
  /-- The path of the document from which the settings come. -/
  source : Option String := none
deriving DecidableEq, Repr

inductive SettingError where
  | serverNotTable
  | hostNotText
  | portNotInteger
  | routesNotTable
  | pageTypeNotText
  | pageTypeUnknown
deriving DecidableEq, Repr

/-- The words by which a default marker is chosen; the last one chooses none. -/
def pageTypeChoices : List String :=
  ["page", "route", "none"]

def SettingError.message : SettingError → String
  | serverNotTable => "server section must be a dictionary"
  | hostNotText => "server.host must be a string"
  | portNotInteger => "server.port must be an integer"
  | routesNotTable => "routes section must be a dictionary"
  | pageTypeNotText => "routes.default_page_type must be a string"
  | pageTypeUnknown =>
      "routes.default_page_type must be one of: " ++ String.intercalate ", " pageTypeChoices

/-- The default marker that a word chooses. -/
def readPageType (word : String) : Except SettingError (Option Marker) :=
  if word = "none" then .ok none
  else
    match Marker.ofWord? word with
    | some kind => .ok (some kind)
    | none => .error .pageTypeUnknown

def readHost (server : Data) : Except SettingError String :=
  match server.field? "host" with
  | none => .ok ({} : ServerSettings).host
  | some (.text host) => .ok host
  | some _ => .error .hostNotText

def readPort (server : Data) : Except SettingError Int :=
  match server.field? "port" with
  | none => .ok ({} : ServerSettings).port
  | some (.int port) => .ok port
  | some _ => .error .portNotInteger

/-- The settings of a server section; null stands for a section that is missing. -/
def readServer : Data → Except SettingError ServerSettings
  | .null => .ok {}
  | .record fields => do
      let host ← readHost (.record fields)
      let port ← readPort (.record fields)
      pure { host, port }
  | _ => .error .serverNotTable

/-- The default marker of a routes section; null stands for a section that is missing. -/
def readRoutes : Data → Except SettingError (Option Marker)
  | .null => .ok ({} : Config).marker
  | .record fields =>
      match (Data.record fields).field? "default_page_type" with
      | none => .ok ({} : Config).marker
      | some (.text word) => readPageType word
      | some _ => .error .pageTypeNotText
  | _ => .error .routesNotTable

namespace Config

def ofDocument (source : String) (document : Data) : Except SettingError Config := do
  let server ← readServer (document.fieldOrNull "server")
  let marker ← readRoutes (document.fieldOrNull "routes")
  pure { server, marker, source := some source }

/-- Settings that replace others where they are given. -/
structure Overrides where
  host : Option String := none
  port : Option Int := none
  pageType : Option String := none
deriving DecidableEq, Repr

/-- Replaces the settings that are given, all of them or none. -/
def override (c : Config) (o : Overrides) : Except SettingError Config := do
  let marker ←
    match o.pageType with
    | some word => readPageType word
    | none => pure c.marker
  pure { c with
    server := ⟨o.host.getD c.server.host, o.port.getD c.server.port⟩
    marker }

/-- Applies overrides in turn; one that fails is passed over. -/
def overrideAll (c : Config) (os : List Overrides) : Config :=
  os.foldl (fun c o => (c.override o).toOption.getD c) c

end Config

end DirectoryRoutes
