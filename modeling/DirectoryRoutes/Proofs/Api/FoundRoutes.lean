import DirectoryRoutes.Proofs.Api.RouteRequests
import DirectoryRoutes.Proofs.Page.MarkedPages
import DirectoryRoutes.Proofs.Page.Records

/-! Routes that are found, and their documents. A document is read back as the page that it
describes, and the text of the page, without the word of its marker, names tokens that find the same
route.
-/

namespace DirectoryRoutes.Api

open Page (RouteNames ofNames)

/-- The document of a route that a request finds, by a path or by tokens. -/
inductive Found (fallback : Option Marker) : Data → Prop where
  | byPath {path : String} (success : (parseRoute fallback path).status = 200)
    : Found fallback (parseRoute fallback path).body
  | byTokens {body : Data} (success : (buildRoute fallback body).status = 200)
    : Found fallback (buildRoute fallback body).body

/-- A path is answered with a page of names that has the default marker. -/
theorem exists_names_of_parseRoute {fallback : Option Marker} {path : String}
    (success : (parseRoute fallback path).status = 200)
    : ∃ names,
        RouteNames names ∧ (parseRoute fallback path).body = describe (ofNames names fallback) := by
  unfold parseRoute at success ⊢
  cases built : Page.parse path >>= (·.appendMarker fallback) with
  | error reason => simp [built, refuse] at success
  | ok page =>
      obtain ⟨names, named, rfl⟩ := Page.exists_names_of_ofTokens built
      exact ⟨names, named, rfl⟩

/-- Tokens are answered with a page of names that has the marker of the request. -/
theorem exists_names_of_buildRoute {fallback : Option Marker} {body : Data}
    (success : (buildRoute fallback body).status = 200)
    : ∃ names marker,
        RouteNames names
        ∧ Chooses fallback body marker
        ∧ (buildRoute fallback body).body = describe (ofNames names marker) := by
  obtain ⟨reply, answers⟩ := exists_answers fallback body
  rw [buildRoute_of_answers answers] at success ⊢
  cases answers with
  | found _ _ chosen accepted read =>
      obtain rfl := Except.ok.inj (accepted.mapM_parse.symm.trans read)
      exact ⟨_, _, accepted.routeNames, chosen, rfl⟩
  | _ => simp [reject, refuse] at success

/-- A route that is found has a page of names, by cases on the request. -/
theorem Found.exists_names {fallback : Option Marker} {answer : Data} (found : Found fallback answer)
    : ∃ names marker, RouteNames names ∧ answer = describe (ofNames names marker) := by
  rcases found with success | success
  · obtain ⟨names, named, shown⟩ := exists_names_of_parseRoute success
    exact ⟨names, fallback, named, shown⟩
  · obtain ⟨names, marker, named, _, shown⟩ := exists_names_of_buildRoute success
    exact ⟨names, marker, named, shown⟩

-----------------------------------------------------------------------------------------
-- Asking again with the text of a page
-----------------------------------------------------------------------------------------

/-- The components of a page's text, without the word of its marker. -/
def replayTokens (text : String) (marker : Option Marker) : List String :=
  if marker.isSome then (Text.components text).dropLast else Text.components text

def replayRequest (text : String) (marker : Option Marker) : Data :=
  .record
    [("segments", .list ((replayTokens text marker).map .text)), ("type", choice marker)]

/-- The document of a replay chooses its marker, by cases on the marker. -/
theorem chooses_replayRequest (fallback : Option Marker) (text : String) (marker : Option Marker)
    : Chooses fallback (replayRequest text marker) marker := by
  cases marker with
  | none => exact .null rfl
  | some kind => exact .word kind rfl

/-- The names of a page are what is left of its text: a marker's word comes behind a separator, as
if it were one more name.
-/
theorem filter_replayTokens {names : List String} (named : RouteNames names)
    (marker : Option Marker)
    : (replayTokens (ofNames names marker).render marker).filter (· ≠ "") = names := by
  rw [Page.render_ofNames]
  cases marker with
  | none =>
      rw [Option.toList_none, List.map_nil, List.append_nil]
      exact Text.names_rooted named.proper
  | some kind =>
      -- The word of a marker is split off like a name, since it holds no separator either.
      have plain : ∀ name ∈ names ++ [kind.word], '/' ∉ name.toList := by
        intro name member
        rcases List.mem_append.mp member with inside | last
        · exact (named.proper name inside).2
        · rw [List.mem_singleton.mp last]
          cases kind <;> decide
      have split
          : Text.components (Text.rooted (names ++ [kind.word])) = "" :: names ++ [kind.word] := by
        rw [Text.rooted, if_neg (by simp), Text.components_join plain]
        rfl
      have front : replayTokens (Text.rooted (names ++ [kind.word])) (some kind) = "" :: names := by
        rw [replayTokens, Option.isSome_some, if_pos rfl, split, List.dropLast_concat]
      rw [Option.toList_some, List.map_singleton, front, List.filter_cons_of_neg (by simp)]
      exact named.filter_ne_empty

/-- The names of a page find it again by its text, whatever the default is. -/
theorem buildRoute_replayRequest {names : List String} (named : RouteNames names)
    (marker fallback : Option Marker)
    : buildRoute fallback (replayRequest (ofNames names marker).render marker)
      = ⟨200, describe (ofNames names marker), []⟩ := by
  have kept := filter_replayTokens named marker
  have accepted := named.accepted kept
  have chosen := chooses_replayRequest fallback (ofNames names marker).render marker
  have object : IsObject (replayRequest (ofNames names marker).render marker) := ⟨_, rfl⟩
  rw [buildRoute_of_answers (.found object rfl chosen accepted accepted.mapM_parse), kept]
  rfl

/-- The document of a found route is read as a page. The page and its path have the records that
stand in the document, and what replays the page's text and its marker is answered with the document
again, whatever the default is then.
-/
theorem found_replayed {fallback : Option Marker} {answer : Data} (found : Found fallback answer)
    : ∃ page text,
        answer.field? "page" = some (.text text)
        ∧ Page.ofData answer = .ok page
        ∧ page.toData
          = .record
              [("page", answer.fieldOrNull "page"), ("segments", answer.fieldOrNull "segments")]
        ∧ page.urlPath.toData
          = .record
              [("path", answer.fieldOrNull "path"),
               ("segments", answer.fieldOrNull "pathSegments")]
        ∧ ∀ other, buildRoute other (replayRequest text page.marker?) = ⟨200, answer, []⟩ := by
  obtain ⟨names, marker, named, rfl⟩ := found.exists_names
  refine ⟨ofNames names marker, (ofNames names marker).render, rfl, ?_, rfl, rfl, ?_⟩
  · exact (named.neighboursOrdered marker).ofData rfl
  · rw [Page.marker?_ofNames]
    exact buildRoute_replayRequest named marker

/-- The catch-all of a path and the marker behind it come back by the text of the page where no
marker is the default.
-/
theorem found_replayed_closed_catchAll
    : let answer := (parseRoute (some .route) "//(shop)/[...id]/").body
      Found (some .route) answer
      ∧ buildRoute none (replayRequest "/(shop)/[...id]/route" (some .route))
        = ⟨200, answer, []⟩ := by
  intro answer
  have found : Found (some .route) answer := .byPath (by decide)
  obtain ⟨page, text, shown, read, _, _, again⟩ := found_replayed found
  have written : answer.field? "page" = some (.text "/(shop)/[...id]/route") := by rfl
  obtain rfl := Data.text.inj (Option.some.inj (shown.symm.trans written))
  have kept : Page.ofData answer
      = .ok ⟨[.group "shop", .catchAll "id", .marker .route]⟩ := by rfl
  obtain rfl := Except.ok.inj (read.symm.trans kept)
  exact ⟨found, again none⟩

end DirectoryRoutes.Api
