import DirectoryRoutes.Proofs.Page.RenderedPages

/-! URL paths of pages that are read from paths. Slots and groups are told by how their names begin
and end; the URL path has the segments of all other names, and its text gives these names back, so
that it is read as a page of the same URL path.
-/

namespace DirectoryRoutes

open Text (Begins Ends begins_iff begins_and_ends_iff)

-----------------------------------------------------------------------------------------
-- Names that are no part of a URL
-----------------------------------------------------------------------------------------

instance (opening text : String) : Decidable (Begins opening text) :=
  inferInstanceAs (Decidable (opening.toList <+: text.toList))

instance (closing text : String) : Decidable (Ends closing text) :=
  inferInstanceAs (Decidable (closing.toList <:+ text.toList))

namespace Segment

/-- The name is written as that of a slot or of a group. -/
def Aside (name : String) : Prop :=
  Begins "@" name ∨ Begins "(" name ∧ Ends ")" name

instance (name : String) : Decidable (Aside name) :=
  inferInstanceAs (Decidable (Begins "@" name ∨ Begins "(" name ∧ Ends ")" name))

/-- A name is part of the URL unless it is written as that of a slot or of a group, by cases on the
form that it is read by.
-/
theorem isRoutable_classify_iff (name : String)
    : (classify name).isRoutable = true ↔ ¬ Aside name := by
  rw [Aside, begins_iff, begins_and_ends_iff (by simp)]
  constructor
  · intro routable aside
    rcases aside with ⟨inner, rfl⟩ | ⟨inner, rfl⟩
    · simp [classify_parallel, isRoutable] at routable
    · simp [classify_group, isRoutable] at routable
  · intro apart
    rcases classify_cases name with ⟨form, listed, inner, written, built⟩ | static
    · simp only [forms, List.mem_cons, List.not_mem_nil, or_false] at listed
      rcases listed with rfl | rfl | rfl | rfl | rfl
      · exact absurd (Or.inr ⟨inner, written⟩) apart
      · exact absurd (Or.inl ⟨inner, by simpa [Form.write] using written⟩) apart
      all_goals simp [built, isRoutable]
    · simp [static, isRoutable]

end Segment

namespace Page

open Segment (Aside classify)

-----------------------------------------------------------------------------------------
-- The URL path of a path
-----------------------------------------------------------------------------------------

/-- The names of a path that are part of its URL. -/
def urlNames (path : String) : List String :=
  (Text.names path).filter fun name => ¬ Aside name

/-- The names of a URL path are proper, since they are names of the path. -/
theorem ne_empty_of_mem_urlNames {path : String}
    : ∀ name ∈ urlNames path, name ≠ "" ∧ '/' ∉ name.toList := by
  intro name member
  exact Text.ne_empty_of_mem_names (List.mem_filter.mp member).1

/-- The URL path of a page of names is that of the names that do not stand aside. -/
theorem urlPath_ofNames (names : List String) (marker : Option Marker)
    : (ofNames names marker).urlPath
      = ⟨(names.filter fun name => ¬ Aside name).map classify⟩ := by
  have marked : (marker.toList.map Segment.marker).filter Segment.isRoutable = [] := by
    cases marker <;> rfl
  have kept : (names.map classify).filter Segment.isRoutable
      = (names.filter fun name => ¬ Aside name).map classify := by
    rw [List.filter_map]
    apply congrArg (List.map classify)
    apply List.filter_congr
    intro name _
    rw [Function.comp_apply, Bool.eq_iff_iff, Segment.isRoutable_classify_iff, decide_eq_true_iff]
  rw [urlPath, UrlPath.ofSegments, ofNames, List.filter_append, marked, List.append_nil, kept]

variable {path path' : String} {marker marker' : Option Marker} {p q : Page}

/-- A page that is read from a path is that of the names of the path. -/
theorem eq_ofNames_of_parse (built : parse path >>= (·.appendMarker marker) = .ok p)
    : p = ofNames (Text.names path) marker := by
  obtain ⟨unmarked, read, marked⟩ := bind_eq_ok_iff.mp built
  obtain ⟨_, rfl⟩ := parse_eq_ok_iff.mp read
  rw [appendMarker_eq] at marked
  exact (Except.ok.inj marked).symm

/-- The URL path has the segments of the names that are neither slots nor groups. -/
theorem urlPath_of_parse (built : parse path >>= (·.appendMarker marker) = .ok p)
    : p.urlPath = ⟨(urlNames path).map classify⟩ := by
  rw [eq_ofNames_of_parse built, urlPath_ofNames, urlNames]

/-- The URL path of a page is written as the names of its path that do not stand aside. -/
theorem render_urlPath_of_parse (built : parse path >>= (·.appendMarker marker) = .ok p)
    : p.urlPath.render = Text.rooted (urlNames path) := by
  rw [urlPath_of_parse built]
  exact render_map_classify (urlNames path)

-----------------------------------------------------------------------------------------
-- Paths that share a URL
-----------------------------------------------------------------------------------------

/-- Two paths come to the same URL path, whatever markers are behind them, if and only if they have
the same names once slots and groups are left out; the text of the URL path tells as much as its
segments.
-/
theorem urlPath_eq_iff_of_parse (built : parse path >>= (·.appendMarker marker) = .ok p)
    (built' : parse path' >>= (·.appendMarker marker') = .ok q)
    : (p.urlPath = q.urlPath ↔ p.urlPath.render = q.urlPath.render)
      ∧ (p.urlPath.render = q.urlPath.render ↔ urlNames path = urlNames path') := by
  have alike : p.urlPath.render = q.urlPath.render ↔ urlNames path = urlNames path' := by
    rw [render_urlPath_of_parse built, render_urlPath_of_parse built']
    exact Text.rooted_inj ne_empty_of_mem_urlNames ne_empty_of_mem_urlNames
  refine ⟨⟨congrArg UrlPath.render, ?_⟩, alike⟩
  intro same
  rw [urlPath_of_parse built, urlPath_of_parse built', alike.mp same]

/-- Two pages with the same URL path that differ in their groups, slots and markers. -/
theorem urlPath_eq_of_slots_and_groups
    : let p : Page := ⟨[.group "shop", .static "blog", .parallel "x", .marker .page]⟩
      let q : Page := ⟨[.static "blog", .marker .route]⟩
      p.urlPath = q.urlPath ∧ p ≠ q := by
  have read : parse "/(shop)//blog/@x" >>= (·.appendMarker (some .page))
      = .ok ⟨[.group "shop", .static "blog", .parallel "x", .marker .page]⟩ := by
    decide
  have read' : parse "blog/" >>= (·.appendMarker (some .route))
      = .ok ⟨[.static "blog", .marker .route]⟩ := by
    decide
  have shared := urlPath_eq_iff_of_parse read read'
  exact ⟨shared.1.mpr (shared.2.mpr (by decide)), by decide⟩

-----------------------------------------------------------------------------------------
-- URL paths that are read as paths
-----------------------------------------------------------------------------------------

/-- What is left of the names of a page makes a page: a name that has another one behind it among
those that are left has one behind it among all of them.
-/
theorem routeNames_urlNames (read : parse path = .ok p) : RouteNames (urlNames path) := by
  obtain ⟨free, _⟩ := parse_eq_ok_iff.mp read
  refine ⟨ne_empty_of_mem_urlNames, ?_⟩
  intro name early
  obtain ⟨before, rest, later, split, _, behind, _⟩ := mem_dropLast_filter_iff.mp early
  exact free name (mem_dropLast_iff.mpr ⟨before, rest, split, List.ne_nil_of_mem behind⟩)

/-- The text of a URL path has no names of slots and groups to leave out. -/
theorem urlNames_rooted_urlNames (path : String)
    : urlNames (Text.rooted (urlNames path)) = urlNames path := by
  rw [urlNames, Text.names_rooted ne_empty_of_mem_urlNames]
  exact List.filter_eq_self.mpr fun _ member => (List.mem_filter.mp member).2

/-- A page that is read from a path takes any marker, and the text of its URL path is then read as a
page with the segments of the URL path and nothing else. Its own URL path is the same again.
-/
theorem parse_render_urlPath (read : parse path = .ok p) (marker : Option Marker)
    : ∃ marked again,
        p.appendMarker marker = .ok marked
        ∧ parse marked.urlPath.render = .ok again
        ∧ again.segments = marked.urlPath.segments
        ∧ again.urlPath = marked.urlPath := by
  have appended := appendMarker_eq p marker
  have built : parse path >>= (·.appendMarker marker) = .ok _ :=
    bind_eq_ok_iff.mpr ⟨p, read, appended⟩
  have again : parse (Text.rooted (urlNames path)) = .ok (ofNames (urlNames path) none) :=
    (routeNames_urlNames read).parse_rooted
  have builtAgain : parse (Text.rooted (urlNames path)) >>= (·.appendMarker none)
      = .ok (ofNames (urlNames path) none) :=
    bind_eq_ok_iff.mpr ⟨_, again, rfl⟩
  refine ⟨_, ofNames (urlNames path) none, appended, ?_, ?_, ?_⟩
  · rw [render_urlPath_of_parse built]
    exact again
  · simp [urlPath_of_parse built, ofNames]
  · rw [urlPath_of_parse built, urlPath_of_parse builtAgain, urlNames_rooted_urlNames]

/-- A name that is the word of the marker stays, while the marker goes with the slots and groups. -/
theorem parse_render_urlPath_of_word
    : let p : Page :=
        ⟨[.group "shop", .static "page", .parallel "x", .optionalCatchAll "rest"]⟩
      parse "/(shop)/page//@x/[[...rest]]" = .ok p
      ∧ ∃ marked again,
          p.appendMarker (some .page) = .ok marked
          ∧ parse marked.urlPath.render = .ok again
          ∧ again.segments = [.static "page", .optionalCatchAll "rest"]
          ∧ again.urlPath = marked.urlPath := by
  intro p
  have read : parse "/(shop)/page//@x/[[...rest]]" = .ok p := by decide
  obtain ⟨marked, again, appended, readAgain, same, fixed⟩ := parse_render_urlPath read (some .page)
  refine ⟨read, marked, again, appended, readAgain, ?_, fixed⟩
  cases appended
  exact same

end Page

end DirectoryRoutes
