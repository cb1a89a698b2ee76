import DirectoryRoutes.Config

/-! Settings in a store. The settings of the server and the default marker have places of their own,
to which whole settings refer; settings with overrides go on to refer to the parts that are not
replaced. What is in a store never changes, and what is added before a failure stays.
-/

namespace DirectoryRoutes.Config

/-- Whole settings as they are stored: the places of their parts, and the path of their document. -/
structure Stored where
  server : Nat
  marker : Nat
  source : Option String
deriving Inhabited

structure Store where
  servers : List ServerSettings := []
  markers : List (Option Marker) := []
  configs : List Stored := []

namespace Store

/-- The settings at a place, with what their parts are. -/
def config? (s : Store) (place : Nat) : Option Config := do
  let stored ← s.configs[place]?
  let server ← s.servers[stored.server]?
  let marker ← s.markers[stored.marker]?
  pure { server, marker, source := stored.source }

/-- Work on a store, which may fail. -/
abbrev Work :=
  EStateM SettingError Store

def addServer (server : ServerSettings) : Work Nat :=
  modifyGet fun s => (s.servers.length, { s with servers := s.servers ++ [server] })

def addMarker (marker : Option Marker) : Work Nat :=
  modifyGet fun s => (s.markers.length, { s with markers := s.markers ++ [marker] })

def addConfig (stored : Stored) : Work Nat :=
  modifyGet fun s => (s.configs.length, { s with configs := s.configs ++ [stored] })

/-- The place of the server settings with overrides: a new one if any of them is given. -/
def replaceServer (place : Nat) (o : Overrides) : Work Nat := do
  if o.host.isSome || o.port.isSome then
    let server := (← get).servers.getD place {}
    addServer ⟨o.host.getD server.host, o.port.getD server.port⟩
  else pure place

/-- The place of the default marker with overrides: a new one if a marker is chosen. -/
def replaceMarker (place : Nat) (o : Overrides) : Work Nat :=
  match o.pageType with
  | some word => do
      let marker ← MonadExcept.ofExcept (readPageType word)
      addMarker marker
  | none => pure place

/-- Adds the settings of a place with overrides. -/
def override (place : Nat) (o : Overrides) : Work Nat := do
  let stored := (← get).configs.getD place default
  let server ← replaceServer stored.server o
  let marker ← replaceMarker stored.marker o
  addConfig { stored with server, marker }

/-- Applies overrides in turn, each to the settings that were added last; one that fails is passed
over. What results is the place of the last settings and the store with all of them.
-/
def overrideAll (s : Store) (place : Nat) (os : List Overrides) : Nat × Store :=
  os.foldl
    (fun (place, s) o =>
      match (override place o).run s with
      | .ok added after => (added, after)
      | .error _ after => (place, after))
    (place, s)

end Store

end DirectoryRoutes.Config
