import DirectoryRoutes.Proofs.Page.TokenRuns
import DirectoryRoutes.Proofs.Segment.RoundTrips
import DirectoryRoutes.Proofs.Text.PathComponents

/-! Pages of paths. A path is read name by name, and the page that is read renders to the path
without its empty components, from which the same page is read again.
-/

namespace DirectoryRoutes

/-- The name is read as a catch-all. -/
def Segment.ReadAsCatchAll (name : String) : Prop :=
  ∃ s, Segment.parse name = .ok s ∧ s.isCatchAll = true

/-- A name without separators is read as a catch-all if and only if it is written as one. -/
theorem Segment.readAsCatchAll_iff {name : String} (plain : '/' ∉ name.toList)
    : Segment.ReadAsCatchAll name ↔ Segment.CatchAllToken name := by
  constructor
  · intro reading
    obtain ⟨s, read, catching⟩ := reading
    obtain ⟨_, _, rfl⟩ := Segment.parse_eq_ok_iff.mp read
    exact (Segment.isCatchAll_classify_iff name).mp catching
  · intro written
    exact ⟨Segment.classify name, Segment.parse_eq_ok_iff.mpr ⟨written.ne_empty, plain, rfl⟩,
      (Segment.isCatchAll_classify_iff name).mpr written⟩

/-- Segments are written as a path of their tokens. -/
theorem Segment.renderAll_eq_rooted (segments : List Segment)
    : Segment.renderAll segments = Text.rooted (segments.map Segment.render) := by
  simp [renderAll, Text.rooted, Function.comp_def]

namespace Page

open Segment (CatchAllToken classify)

-----------------------------------------------------------------------------------------
-- What a path is read as
-----------------------------------------------------------------------------------------

/-- A path is read if and only if no name but the last is written as a catch-all, and the page then
has the segments of the names.
-/
theorem parse_eq_ok_iff {path : String} {p : Page}
    : parse path = .ok p
      ↔ (∀ name ∈ (Text.names path).dropLast, ¬ CatchAllToken name)
        ∧ p = ⟨(Text.names path).map classify⟩ := by
  have plain : ∀ token ∈ Text.components path, '/' ∉ token.toList :=
    fun _ member => Text.not_mem_of_mem_components member
  unfold parse
  rw [ofTokens_eq_ok_iff, accepted_iff]
  exact and_congr_left' (and_iff_right plain)

/-- A path that is not read goes on behind its first catch-all, and the name that comes next is
refused. Witness: the first refused component, which holds no separator.
-/
theorem parse_eq_error {path : String} {e : SegmentError} (failed : parse path = .error e)
    : ∃ before catcher next after,
        Text.names path = before ++ catcher :: next :: after
        ∧ (∀ name ∈ before, ¬ CatchAllToken name)
        ∧ CatchAllToken catcher
        ∧ e = .invalidAppend (classify next) ((before ++ [catcher]).map classify) := by
  obtain ⟨before, next, after, split, accepted, refused, rfl⟩ := ofTokens_eq_error_iff.mp failed
  have member : next ∈ Text.components path := by simp [split]
  have plain : '/' ∉ next.toList := Text.not_mem_of_mem_components member
  obtain ⟨front, catcher, shape, free, catching, refusal⟩ :=
    exists_catcher_of_refused accepted refused plain
  refine ⟨front, catcher, next, after.filter (· ≠ ""), ?_, free, catching, refusal⟩
  unfold Text.names
  rw [split, List.filter_append, shape, List.filter_cons_of_pos (by simpa using refused.1)]
  simp

-----------------------------------------------------------------------------------------
-- The page of a path, rendered
-----------------------------------------------------------------------------------------

/-- A page of segments that are read from tokens has no marker. -/
theorem marker?_map_classify (tokens : List String)
    : marker? ⟨tokens.map classify⟩ = none := by
  unfold marker?
  split
  · rename_i kind last
    obtain ⟨token, _, marked⟩ := List.mem_map.mp (List.mem_of_getLast? last)
    have unmarked := Segment.isMarker_classify token
    simp [marked, Segment.isMarker] at unmarked
  · rfl

/-- Segments that are read from tokens are written as the tokens. -/
theorem render_map_classify (tokens : List String)
    : render ⟨tokens.map classify⟩ = Text.rooted tokens := by
  simp [render, Segment.renderAll_eq_rooted, Function.comp_def]

/-- Each segment of a page that is read is read from a token. -/
theorem exists_parse_of_parse {path : String} {p : Page} (read : parse path = .ok p)
    : ∀ s ∈ p.segments, ∃ token, Segment.parse token = .ok s := by
  obtain ⟨_, rfl⟩ := parse_eq_ok_iff.mp read
  intro s member
  obtain ⟨name, named, rfl⟩ := List.mem_map.mp member
  obtain ⟨nonempty, plain⟩ := Text.ne_empty_of_mem_names named
  exact ⟨name, Segment.parse_eq_ok_iff.mpr ⟨nonempty, plain, rfl⟩⟩

/-- A page with its neighbours in order is read again from its text if and only if each of its
segments is read from some token: the names of the text are then the texts of the segments, each of
which is read as its own segment, and a catch-all has nothing but a marker behind it, which is no
such segment.
-/
theorem NeighboursOrdered.parse_render_iff {p : Page} (ordered : p.NeighboursOrdered)
    : parse p.render = .ok p ↔ ∀ s ∈ p.segments, ∃ token, Segment.parse token = .ok s := by
  constructor
  · exact exists_parse_of_parse
  · intro read
    have own : ∀ s ∈ p.segments, s.render ≠ "" ∧ '/' ∉ s.render.toList ∧ classify s.render = s :=
      fun s member => Segment.exists_parse_iff.mp (read s member)
    have names : Text.names p.render = p.segments.map Segment.render := by
      rw [render, Segment.renderAll_eq_rooted]
      apply Text.names_rooted
      intro name member
      obtain ⟨s, inside, rfl⟩ := List.mem_map.mp member
      exact ⟨(own s inside).1, (own s inside).2.1⟩
    have same : (Text.names p.render).map classify = p.segments := by
      rw [names, List.map_map]
      exact (List.map_congr_left fun s member => (own s member).2.2).trans (List.map_id _)
    refine parse_eq_ok_iff.mpr ⟨?_, by rw [same]⟩
    intro name early written
    rw [names, ← List.map_dropLast] at early
    obtain ⟨catcher, unlast, rfl⟩ := List.mem_map.mp early
    have catching : catcher.isCatchAll = true := by
      rw [← (own catcher (List.dropLast_subset _ unlast)).2.2]
      exact (Segment.isCatchAll_classify_iff _).mpr written
    obtain ⟨next, member, marked⟩ := ordered.exists_marker unlast catching
    rw [← (own next member).2.2, Segment.isMarker_classify] at marked
    cases marked

/-- A page is read again from its text. -/
theorem parse_render {path : String} {p : Page} (read : parse path = .ok p)
    : parse p.render = .ok p :=
  (neighboursOrdered_ofTokens read).parse_render_iff.mpr (exists_parse_of_parse read)

/-- The names of a path, in order, decide whether it is read; they are the segments and the text of
its page, and the first two that clash are the reason if there is none.
-/
theorem parse_canonical (path : String)
    : ((∃ p, parse path = .ok p)
        ↔ ∀ name ∈ (Text.names path).dropLast, ¬ Segment.ReadAsCatchAll name)
      ∧ (∀ p, parse path = .ok p
          → (Text.names path).mapM Segment.parse = .ok p.segments
            ∧ p.marker? = none
            ∧ p.render = Text.rooted (Text.names path)
            ∧ parse p.render = .ok p)
      ∧ (∀ e, parse path = .error e
          → ∃ before catcher next after prior s,
              Text.names path = before ++ catcher :: next :: after
              ∧ (∀ name ∈ before, ¬ Segment.ReadAsCatchAll name)
              ∧ Segment.ReadAsCatchAll catcher
              ∧ (before ++ [catcher]).mapM Segment.parse = .ok prior
              ∧ Segment.parse next = .ok s
              ∧ e = .invalidAppend s prior) := by
  have proper : ∀ name ∈ Text.names path, name ≠ "" ∧ '/' ∉ name.toList :=
    fun _ member => Text.ne_empty_of_mem_names member
  have written : ∀ name ∈ Text.names path, (Segment.ReadAsCatchAll name ↔ CatchAllToken name) :=
    fun name member => Segment.readAsCatchAll_iff (proper name member).2
  refine ⟨?_, ?_, ?_⟩
  · have free : (∃ p, parse path = .ok p)
        ↔ ∀ name ∈ (Text.names path).dropLast, ¬ CatchAllToken name := by
      simp [parse_eq_ok_iff]
    rw [free]
    exact forall₂_congr fun name early =>
      not_congr (written name (List.dropLast_subset _ early)).symm
  · intro p read
    obtain ⟨_, rfl⟩ := parse_eq_ok_iff.mp read
    exact ⟨Segment.mapM_parse proper, marker?_map_classify _, render_map_classify _,
      parse_render read⟩
  · intro e failed
    obtain ⟨before, catcher, next, after, split, free, catching, rfl⟩ := parse_eq_error failed
    have early : ∀ name ∈ before ++ [catcher], name ∈ Text.names path := by
      intro name member
      rw [split, List.append_cons]
      exact List.mem_append_left _ member
    have late : next ∈ Text.names path := by simp [split]
    refine ⟨before, catcher, next, after, _, classify next, split, ?_, ?_,
      Segment.mapM_parse fun name member => proper name (early name member), ?_, rfl⟩
    · intro name member
      exact (not_congr (written name (early name (by simp [member])))).mpr (free name member)
    · exact (written catcher (early catcher (by simp))).mpr catching
    · exact Segment.parse_eq_ok_iff.mpr ⟨(proper next late).1, (proper next late).2, rfl⟩

end Page

end DirectoryRoutes
