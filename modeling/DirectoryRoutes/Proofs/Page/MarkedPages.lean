import DirectoryRoutes.Proofs.Page.CanonicalPaths

/-! Pages of names with a marker, or none, behind them. These are all the pages that tokens or a
path make when a marker is added to them.
-/

namespace DirectoryRoutes.Page

open Segment (CatchAllToken classify)

/-- Names that make a page: each holds a character and no separator, and none but the last is
written as a catch-all.
-/
structure RouteNames (names : List String) : Prop where
  proper : ∀ name ∈ names, name ≠ "" ∧ '/' ∉ name.toList
  free : ∀ name ∈ names.dropLast, ¬ CatchAllToken name

/-- The page of names, with a marker behind them or none. -/
def ofNames (names : List String) (marker : Option Marker) : Page :=
  ⟨names.map classify ++ marker.toList.map .marker⟩

-----------------------------------------------------------------------------------------
-- Where such pages come from
-----------------------------------------------------------------------------------------

/-- Tokens that are accepted are the names of a route, but for those that are empty. -/
theorem Accepted.routeNames {tokens : List String} (accepted : Accepted tokens)
    : RouteNames (tokens.filter (· ≠ "")) := by
  obtain ⟨plain, free⟩ := accepted_iff.mp accepted
  refine ⟨?_, free⟩
  intro name member
  obtain ⟨given, nonempty⟩ := List.mem_filter.mp member
  exact ⟨by simpa using nonempty, plain name given⟩

/-- No name of a route is empty. -/
theorem RouteNames.filter_ne_empty {names : List String} (named : RouteNames names)
    : names.filter (· ≠ "") = names :=
  List.filter_eq_self.mpr fun name member => by simpa using (named.proper name member).1

/-- Tokens are accepted if they come to the names of a page once the empty ones are left out. -/
theorem RouteNames.accepted {tokens names : List String} (named : RouteNames names)
    (kept : tokens.filter (· ≠ "") = names)
    : Accepted tokens := by
  refine accepted_iff.mpr ⟨?_, kept ▸ named.free⟩
  intro token member slash
  have inside : token ∈ names := by
    rw [← kept, List.mem_filter]
    refine ⟨member, ?_⟩
    simp only [ne_eq, decide_not, Bool.not_eq_true', decide_eq_false_iff_not]
    rintro rfl
    simp at slash
  exact (named.proper token inside).2 slash

/-- What tokens make, a marker added, is the page of names. -/
theorem exists_names_of_ofTokens {tokens : List String} {marker : Option Marker} {p : Page}
    (built : ofTokens tokens >>= (·.appendMarker marker) = .ok p)
    : ∃ names, RouteNames names ∧ p = ofNames names marker := by
  obtain ⟨q, unmarked, marked⟩ := bind_eq_ok_iff.mp built
  obtain ⟨accepted, rfl⟩ := ofTokens_eq_ok_iff.mp unmarked
  rw [appendMarker_eq] at marked
  exact ⟨_, accepted.routeNames, (Except.ok.inj marked).symm⟩

-----------------------------------------------------------------------------------------
-- What such pages are
-----------------------------------------------------------------------------------------

/-- A page of names has the marker that it is given, by cases on the marker. -/
theorem marker?_ofNames (names : List String) (marker : Option Marker)
    : (ofNames names marker).marker? = marker := by
  cases marker with
  | none => simpa [ofNames] using marker?_map_classify names
  | some kind => simp [ofNames, marker?]

/-- A page of names is written as a path of them, with the word of its marker behind them. -/
theorem render_ofNames (names : List String) (marker : Option Marker)
    : (ofNames names marker).render = Text.rooted (names ++ marker.toList.map Marker.word) := by
  have read : (names.map classify).map Segment.render = names := by simp [Function.comp_def]
  rw [render, Segment.renderAll_eq_rooted, ofNames, List.map_append, read, List.map_map]
  rfl

/-- Nothing but the marker comes behind a catch-all. -/
theorem RouteNames.neighboursOrdered {names : List String} (named : RouteNames names)
    (marker : Option Marker)
    : (ofNames names marker).NeighboursOrdered := by
  have unmarked := ofTokens_of_accepted (named.accepted named.filter_ne_empty)
  rw [named.filter_ne_empty] at unmarked
  have ordered := neighboursOrdered_ofTokens unmarked
  cases marker with
  | none => simpa [ofNames] using ordered
  | some kind =>
      refine ordered.append (append_eq_ok_iff.mpr ⟨?_, rfl⟩)
      intro last _ _
      rfl

/-- Names are read as the page of their own from the path that leads through them. -/
theorem RouteNames.parse_rooted {names : List String} (named : RouteNames names)
    : parse (Text.rooted names) = .ok (ofNames names none) := by
  rw [parse_eq_ok_iff, Text.names_rooted named.proper]
  exact ⟨named.free, by simp [ofNames]⟩

end DirectoryRoutes.Page
