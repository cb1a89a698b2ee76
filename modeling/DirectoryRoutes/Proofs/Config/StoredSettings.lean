import DirectoryRoutes.Config.Store
import Mathlib.Data.List.Infix

/-! Settings in a store behave like values. Overrides add to a store and leave everything in it as
it was, so the settings that are added may share the parts of those before them.
-/

namespace DirectoryRoutes.Config

namespace Store

-----------------------------------------------------------------------------------------
-- What is in a store stays in it
-----------------------------------------------------------------------------------------

/-- The second store has everything that is in the first one, at the same places. -/
structure Extends (s after : Store) : Prop where
  servers : s.servers <+: after.servers
  markers : s.markers <+: after.markers
  configs : s.configs <+: after.configs

/-- A store extends itself. -/
theorem Extends.refl (s : Store) : s.Extends s :=
  ⟨List.prefix_rfl, List.prefix_rfl, List.prefix_rfl⟩

/-- A store extends what the stores that it extends do. -/
theorem Extends.trans {s between after : Store} (first : s.Extends between)
    (second : between.Extends after)
    : s.Extends after :=
  ⟨first.servers.trans second.servers, first.markers.trans second.markers,
    first.configs.trans second.configs⟩

/-- An item keeps its place in a longer list. -/
theorem getElem?_of_longer {α : Type} {list longer : List α} {place : Nat} {a : α}
    (begins : list <+: longer) (here : list[place]? = some a)
    : longer[place]? = some a := by
  obtain ⟨rest, rfl⟩ := begins
  obtain ⟨inside, _⟩ := List.getElem?_eq_some_iff.mp here
  rw [List.getElem?_append_left inside, here]

/-- Settings are stored if and only if their parts are. -/
theorem config?_eq_some_iff {s : Store} {place : Nat} {c : Config}
    : s.config? place = some c
      ↔ ∃ stored,
          s.configs[place]? = some stored
          ∧ s.servers[stored.server]? = some c.server
          ∧ s.markers[stored.marker]? = some c.marker
          ∧ stored.source = c.source := by
  obtain ⟨server, marker, source⟩ := c
  simp only [config?, Option.bind_eq_bind, Option.bind_eq_some_iff, pure, Option.some.injEq,
    Config.mk.injEq]
  constructor
  · intro parts
    obtain ⟨stored, here, _, serverHere, _, markerHere, rfl, rfl, rfl⟩ := parts
    exact ⟨stored, here, serverHere, markerHere, rfl⟩
  · intro parts
    obtain ⟨stored, here, serverHere, markerHere, rfl⟩ := parts
    exact ⟨stored, here, _, serverHere, _, markerHere, rfl, rfl, rfl⟩

/-- Settings that are stored stay in every store that extends theirs. -/
theorem Extends.config? {s after : Store} (more : s.Extends after) {place : Nat} {c : Config}
    (here : s.config? place = some c)
    : after.config? place = some c := by
  obtain ⟨stored, stays, server, marker, source⟩ := config?_eq_some_iff.mp here
  exact config?_eq_some_iff.mpr
    ⟨stored, getElem?_of_longer more.configs stays, getElem?_of_longer more.servers server,
      getElem?_of_longer more.markers marker, source⟩

-----------------------------------------------------------------------------------------
-- What overrides add
-----------------------------------------------------------------------------------------

/-- The work added what the result is to where it says, or it failed for the same reason; either way
the store has all that it had.
-/
inductive Adds {α : Type} (read : Store → Nat → Option α) (s : Store)
    : EStateM.Result SettingError Store Nat → Except SettingError α → Prop where
  | added {place : Nat} {after : Store} {a : α} (more : s.Extends after)
      (here : read after place = some a)
    : Adds read s (.ok place after) (.ok a)
  | failed {reason : SettingError} {after : Store} (more : s.Extends after)
    : Adds read s (.error reason after) (.error reason)

/-- The settings of a server are added at a new place. -/
theorem adds_addServer (s : Store) (server : ServerSettings)
    : Adds (·.servers[·]?) s ((addServer server).run s) (.ok server) :=
  .added ⟨List.prefix_append _ _, List.prefix_rfl, List.prefix_rfl⟩ List.getElem?_concat_length

/-- A choice of a marker is added at a new place. -/
theorem adds_addMarker (s : Store) (marker : Option Marker)
    : Adds (·.markers[·]?) s ((addMarker marker).run s) (.ok marker) :=
  .added ⟨List.prefix_rfl, List.prefix_append _ _, List.prefix_rfl⟩ List.getElem?_concat_length

/-- Settings are added at a new place if their parts are stored. -/
theorem adds_addConfig {s : Store} {stored : Stored} {c : Config}
    (server : s.servers[stored.server]? = some c.server)
    (marker : s.markers[stored.marker]? = some c.marker) (source : stored.source = c.source)
    : Adds config? s ((addConfig stored).run s) (.ok c) :=
  .added ⟨List.prefix_rfl, List.prefix_rfl, List.prefix_append _ _⟩
    (config?_eq_some_iff.mpr ⟨stored, List.getElem?_concat_length, server, marker, source⟩)

/-- What replaces the settings of a server is stored at a new place; they stay where they are if
nothing replaces them.
-/
theorem adds_replaceServer {s : Store} {place : Nat} {server : ServerSettings} (o : Overrides)
    (here : s.servers[place]? = some server)
    : Adds (·.servers[·]?) s ((replaceServer place o).run s)
        (.ok ⟨o.host.getD server.host, o.port.getD server.port⟩) := by
  unfold replaceServer
  split
  · simpa [List.getD, here] using adds_addServer s _
  · rename_i kept
    simp only [Bool.or_eq_true, Option.isSome_iff_ne_none, not_or, not_not] at kept
    rw [kept.1, kept.2]
    exact .added (.refl s) here

/-- What replaces a choice of a marker is stored at a new place; it stays where it is if nothing
replaces it.
-/
theorem adds_replaceMarker {s : Store} {place : Nat} {marker : Option Marker} (o : Overrides)
    (here : s.markers[place]? = some marker)
    : Adds (·.markers[·]?) s ((replaceMarker place o).run s)
        (o.pageType.elim (.ok marker) readPageType) := by
  unfold replaceMarker
  cases o.pageType with
  | none => exact .added (.refl s) here
  | some word =>
      simp only [Option.elim_some]
      cases readPageType word with
      | error reason => exact .failed (.refl s)
      | ok chosen => exact adds_addMarker s chosen

/-- Overrides fail by their word alone, by cases on whether one is given. -/
theorem override_eq_elim (c : Config) (o : Overrides)
    : c.override o
      = (o.pageType.elim (.ok c.marker) readPageType).map fun marker =>
          { c with
            server := ⟨o.host.getD c.server.host, o.port.getD c.server.port⟩
            marker } := by
  unfold Config.override
  cases o.pageType <;> rfl

/-- What was added before goes on being there when more is added. -/
theorem Adds.after {α : Type} {read : Store → Nat → Option α} {s between : Store}
    {result : EStateM.Result SettingError Store Nat} {value : Except SettingError α}
    (more : s.Extends between) (adds : Adds read between result value)
    : Adds read s result value := by
  cases adds with
  | added still here => exact .added (more.trans still) here
  | failed still => exact .failed (more.trans still)

/-- Overrides add what they make of the settings at a place: first the server settings, which stay
behind if there is no marker, then the marker, then what refers to both.
-/
theorem adds_override {s : Store} {place : Nat} {c : Config} (o : Overrides)
    (here : s.config? place = some c)
    : Adds config? s ((override place o).run s) (c.override o) := by
  obtain ⟨stored, storedHere, serverHere, markerHere, source⟩ := config?_eq_some_iff.mp here
  have server := adds_replaceServer o serverHere
  rw [override_eq_elim]
  unfold override
  simp only [EStateM.run_bind, EStateM.run_get, List.getD, storedHere, Option.getD_some]
  generalize (replaceServer stored.server o).run s = first at server ⊢
  cases server with
  | @added serverPlace between _ more serverNow =>
      have marker := adds_replaceMarker o (getElem?_of_longer more.markers markerHere)
      dsimp only
      generalize (replaceMarker stored.marker o).run between = second at marker ⊢
      generalize o.pageType.elim (.ok c.marker) readPageType = chosen at marker ⊢
      cases marker with
      | failed still => exact .failed (more.trans still)
      | added still markerNow =>
          exact .after (more.trans still)
            (adds_addConfig (getElem?_of_longer still.servers serverNow) markerNow source)

/-- Overrides in turn lead to settings that are what they make of the first ones, and the store has
all that it had, by induction on the overrides.
-/
theorem config?_overrideAll {s : Store} {place : Nat} {c : Config} (os : List Overrides)
    (here : s.config? place = some c)
    : (s.overrideAll place os).2.config? (s.overrideAll place os).1 = some (c.overrideAll os)
      ∧ s.Extends (s.overrideAll place os).2 := by
  induction os generalizing s place c with
  | nil => exact ⟨here, .refl s⟩
  | cons o os ih =>
      have step := adds_override o here
      unfold overrideAll Config.overrideAll at ih ⊢
      simp only [List.foldl_cons]
      generalize (override place o).run s = result at step ⊢
      generalize c.override o = value at step ⊢
      cases step with
      | failed more =>
          obtain ⟨last, still⟩ := ih (more.config? here)
          exact ⟨last, more.trans still⟩
      | added more now =>
          obtain ⟨last, still⟩ := ih now
          exact ⟨last, more.trans still⟩

end Store

end DirectoryRoutes.Config
