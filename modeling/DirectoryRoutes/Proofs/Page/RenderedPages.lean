import DirectoryRoutes.Proofs.Page.MarkedPages

/-! Rendered pages as identifiers. The text of a page gives back the names of its segments and the
word of its marker, and only this word can also be the name of a segment: two pages are rendered
alike if they are the same, or if the one ends in a marker where the other ends in its word.
-/

namespace DirectoryRoutes

open Segment (classify)

-----------------------------------------------------------------------------------------
-- Marker words
-----------------------------------------------------------------------------------------

namespace Marker

/-- The word of a marker could be a name. -/
theorem word_proper (kind : Marker) : kind.word ≠ "" ∧ '/' ∉ kind.word.toList := by
  cases kind <;> decide

/-- The word of a marker is read as a static segment. -/
theorem classify_word (kind : Marker) : classify kind.word = .static kind.word := by
  cases kind <;> decide

/-- No two markers have the same word. -/
theorem word_injective : Function.Injective word := by
  intro kind kind' same
  cases kind <;> cases kind' <;> first | rfl | simp [word] at same

end Marker

/-- Paths of proper names are the same if and only if the names are, since they are read again. -/
theorem Text.rooted_inj {list list' : List String}
    (proper : ∀ name ∈ list, name ≠ "" ∧ '/' ∉ name.toList)
    (proper' : ∀ name ∈ list', name ≠ "" ∧ '/' ∉ name.toList)
    : rooted list = rooted list' ↔ list = list' := by
  refine ⟨?_, congrArg rooted⟩
  intro same
  rw [← names_rooted proper, same, names_rooted proper']

namespace Page

-----------------------------------------------------------------------------------------
-- Pages that are rendered alike
-----------------------------------------------------------------------------------------

/-- The one page ends in a marker and the other in its word, behind the same segments. -/
def MarkerForWord (p q : Page) : Prop :=
  ∃ before kind,
    p.segments = before ++ [.marker kind] ∧ q.segments = before ++ [.static kind.word]

/-- A marker is written like a last segment of its word. -/
theorem MarkerForWord.render_eq {p q : Page} (alike : MarkerForWord p q) : p.render = q.render := by
  obtain ⟨before, kind, marked, worded⟩ := alike
  simp [render, Segment.renderAll_eq_rooted, marked, worded, Segment.render]

/-- The names of a route and the word of its marker are proper. -/
theorem RouteNames.proper_words {names : List String} (named : RouteNames names)
    (marker : Option Marker)
    : ∀ name ∈ names ++ marker.toList.map Marker.word, name ≠ "" ∧ '/' ∉ name.toList := by
  intro name member
  rcases List.mem_append.mp member with own | added
  · exact named.proper name own
  · obtain ⟨kind, _, rfl⟩ := List.mem_map.mp added
    exact kind.word_proper

/-- Pages of routes are written alike if and only if their names are with the words of the markers.
-/
theorem render_ofNames_eq_iff {names names' : List String} {marker marker' : Option Marker}
    (named : RouteNames names) (named' : RouteNames names')
    : (ofNames names marker).render = (ofNames names' marker').render
      ↔ names ++ marker.toList.map Marker.word = names' ++ marker'.toList.map Marker.word := by
  rw [render_ofNames, render_ofNames]
  exact Text.rooted_inj (named.proper_words marker) (named'.proper_words marker')

/-- A word among the names is the name of a segment of its own. -/
theorem markerForWord_ofNames (names : List String) (kind : Marker)
    : MarkerForWord (ofNames names (some kind)) (ofNames (names ++ [kind.word]) none) :=
  ⟨names.map classify, kind, rfl, by simp [ofNames, kind.classify_word]⟩

/-- Pages of names are rendered alike for two reasons only, by cases on who has a marker. -/
theorem eq_or_markerForWord {names names' : List String} {marker marker' : Option Marker}
    (same : names ++ marker.toList.map Marker.word = names' ++ marker'.toList.map Marker.word)
    : names = names' ∧ marker = marker'
      ∨ MarkerForWord (ofNames names marker) (ofNames names' marker')
      ∨ MarkerForWord (ofNames names' marker') (ofNames names marker) := by
  cases marker with
  | none =>
      cases marker' with
      | none => exact Or.inl ⟨by simpa using same, rfl⟩
      | some kind' =>
          have longer : names = names' ++ [kind'.word] := by simpa using same
          exact Or.inr (Or.inr (longer ▸ markerForWord_ofNames names' kind'))
  | some kind =>
      cases marker' with
      | none =>
          have longer : names' = names ++ [kind.word] := by simpa using same.symm
          exact Or.inr (Or.inl (longer ▸ markerForWord_ofNames names kind))
      | some kind' =>
          obtain ⟨before, last⟩ := List.append_inj' same rfl
          exact Or.inl ⟨before, congrArg some (Marker.word_injective (List.singleton_inj.mp last))⟩

/-- Of two pages that differ by a marker for its word the first one has a marker, the other none. -/
theorem MarkerForWord.marker?_isSome {p q : Page} (alike : MarkerForWord p q)
    : p.marker?.isSome = true ∧ q.marker?.isSome = false := by
  obtain ⟨before, kind, marked, worded⟩ := alike
  simp [marker?, marked, worded]

/-- Two pages of accepted tokens, each with a marker behind them or none, are rendered alike if and
only if they are the same or the one has a marker where the other has its word. Among pages without
markers, and among pages with markers, none are rendered alike.
-/
theorem render_eq_iff_of_tokens {tokens tokens' : List String} {marker marker' : Option Marker}
    {p q : Page} (built : ofTokens tokens >>= (·.appendMarker marker) = .ok p)
    (built' : ofTokens tokens' >>= (·.appendMarker marker') = .ok q)
    : (p.render = q.render ↔ p = q ∨ MarkerForWord p q ∨ MarkerForWord q p)
      ∧ (p.marker?.isSome = q.marker?.isSome → (p.render = q.render ↔ p = q)) := by
  obtain ⟨names, named, pOfNames⟩ := exists_names_of_ofTokens built
  obtain ⟨names', named', qOfNames⟩ := exists_names_of_ofTokens built'
  have alike : p.render = q.render ↔ p = q ∨ MarkerForWord p q ∨ MarkerForWord q p := by
    constructor
    · intro same
      rw [pOfNames, qOfNames, render_ofNames_eq_iff named named'] at same
      rw [pOfNames, qOfNames]
      refine (eq_or_markerForWord same).imp_left ?_
      rintro ⟨rfl, rfl⟩
      rfl
    · intro cause
      rcases cause with rfl | ahead | behind
      · rfl
      · exact ahead.render_eq
      · exact behind.render_eq.symm
  refine ⟨alike, ?_⟩
  intro both
  rw [alike, or_iff_left]
  intro cause
  rcases cause with ahead | behind
  · simp [ahead.marker?_isSome] at both
  · simp [behind.marker?_isSome] at both

/-- Two pages of which one has a marker and the other its word. -/
theorem render_eq_of_marker_for_word
    : let p : Page := ⟨[.static "a", .marker .page]⟩
      let q : Page := ⟨[.static "a", .static "page"]⟩
      p.render = q.render ∧ p ≠ q := by
  have marked : ofTokens ["a"] >>= (·.appendMarker (some .page))
      = .ok ⟨[.static "a", .marker .page]⟩ := by
    decide
  have worded : ofTokens ["a", "page"] >>= (·.appendMarker none)
      = .ok ⟨[.static "a", .static "page"]⟩ := by
    decide
  have alike : MarkerForWord ⟨[.static "a", .marker .page]⟩ ⟨[.static "a", .static "page"]⟩ :=
    ⟨[.static "a"], .page, rfl, rfl⟩
  exact ⟨(render_eq_iff_of_tokens marked worded).1.mpr (Or.inr (Or.inl alike)), by decide⟩

end Page

end DirectoryRoutes
