import DirectoryRoutes.Proofs.Page.UrlPaths
import DirectoryRoutes.Proofs.Segment.TokenEnds

/-! URL paths with placeholders. A name is that of a placeholder if it is in brackets, and no slot
or group is, so whether a URL path has a placeholder is told by the names of the path that it comes
from as well as by those of its own text.
-/

namespace DirectoryRoutes

open Text (Begins Ends)

-----------------------------------------------------------------------------------------
-- Names in brackets
-----------------------------------------------------------------------------------------

namespace Segment

def Bracketed (name : String) : Prop :=
  Begins "[" name ∧ Ends "]" name

instance (name : String) : Decidable (Bracketed name) :=
  inferInstanceAs (Decidable (Begins "[" name ∧ Ends "]" name))

/-- A name in brackets is neither that of a slot nor that of a group: it begins with a bracket. -/
theorem Bracketed.not_aside {name : String} (bracketed : Bracketed name) : ¬ Aside name := by
  have opened {opening : String} (begins : Begins opening name)
      : "[".toList <+: opening.toList ∨ opening.toList <+: "[".toList :=
    List.prefix_or_prefix_of_prefix bracketed.1 begins
  rintro (slot | group)
  · simpa using opened slot
  · simpa using opened group.1

/-- A name that is part of the URL stands for itself unless it is in brackets. -/
theorem exists_static_iff_not_bracketed {name : String} (routable : ¬ Aside name)
    : (∃ other, classify name = static other) ↔ ¬ Bracketed name := by
  rw [Aside, not_or] at routable
  constructor
  · intro whole
    exact (exists_static_iff.mp whole).2.2.2.2
  · intro free
    exact ⟨name, classify_static_iff.mpr ⟨routable.1, routable.2, free⟩⟩

end Segment

/-- A URL path is dynamic if and only if a segment of it is not static. -/
theorem UrlPath.isDynamic_iff (u : UrlPath)
    : u.isDynamic = true ↔ ∃ s ∈ u.segments, ¬ ∃ name, s = .static name := by
  rw [isDynamic, List.any_eq_true]
  refine exists_congr fun s => and_congr_right fun _ => ?_
  cases s <;> simp

namespace Page

open Segment (Aside Bracketed classify)

-----------------------------------------------------------------------------------------
-- Where placeholders come from
-----------------------------------------------------------------------------------------

variable {path : String} {marker : Option Marker} {p : Page}

/-- A URL path has a placeholder if one of its names is in brackets. -/
theorem isDynamic_urlPath_iff (built : parse path >>= (·.appendMarker marker) = .ok p)
    : p.urlPath.isDynamic = true ↔ ∃ name ∈ urlNames path, Bracketed name := by
  rw [UrlPath.isDynamic_iff, urlPath_of_parse built]
  simp only [List.mem_map, exists_exists_and_eq_and]
  refine exists_congr fun name => and_congr_right fun member => ?_
  have routable : ¬ Aside name := by simpa using (List.mem_filter.mp member).2
  rw [Segment.exists_static_iff_not_bracketed routable, not_not]

/-- What is left out of a URL path has no brackets around it. -/
theorem exists_bracketed_urlNames_iff
    : (∃ name ∈ urlNames path, Bracketed name) ↔ ∃ name ∈ Text.names path, Bracketed name := by
  constructor
  · rintro ⟨name, member, bracketed⟩
    exact ⟨name, (List.mem_filter.mp member).1, bracketed⟩
  · rintro ⟨name, member, bracketed⟩
    refine ⟨name, List.mem_filter.mpr ⟨member, ?_⟩, bracketed⟩
    simpa using bracketed.not_aside

/-- A page that is read from a path takes any marker, and its URL path then has a placeholder
exactly if some name of the path is in brackets, or some name of its own text. The name of a slot or
of a group and a name that lacks a bracket at either end make no difference, whatever else they
hold.
-/
theorem isDynamic_iff_bracketed (read : parse path = .ok p) (marker : Option Marker)
    : ∃ marked,
        p.appendMarker marker = .ok marked
        ∧ (marked.urlPath.isDynamic = true ↔ ∃ name ∈ Text.names path, Bracketed name)
        ∧ (marked.urlPath.isDynamic = true
            ↔ ∃ name ∈ Text.names marked.urlPath.render, Bracketed name)
        ∧ ∀ before name after,
            Text.names path = before ++ name :: after
            → Aside name ∨ ¬ Begins "[" name ∨ ¬ Ends "]" name
            → (marked.urlPath.isDynamic = true ↔ ∃ other ∈ before ++ after, Bracketed other) := by
  have appended := appendMarker_eq p marker
  have built : parse path >>= (·.appendMarker marker) = .ok _ :=
    bind_eq_ok_iff.mpr ⟨p, read, appended⟩
  have told := (isDynamic_urlPath_iff built).trans exists_bracketed_urlNames_iff
  refine ⟨_, appended, told, ?_, ?_⟩
  · rw [isDynamic_urlPath_iff built, render_urlPath_of_parse built,
      Text.names_rooted ne_empty_of_mem_urlNames]
  · intro before name after split plain
    have free : ¬ Bracketed name := by
      rcases plain with aside | unopened | unclosed
      · exact fun bracketed => bracketed.not_aside aside
      · exact fun bracketed => unopened bracketed.1
      · exact fun bracketed => unclosed bracketed.2
    rw [told, split]
    simp only [List.mem_append, List.mem_cons, or_and_right, exists_or, exists_eq_left, free,
      false_or]

/-- Brackets inside a group and a slot, and brackets that two names share, are no placeholders; a
name in brackets behind them is one.
-/
theorem isDynamic_iff_bracketed_of_shared_brackets
    : let p : Page := ⟨[.group "[x]", .parallel "[y]", .static "[z", .static "w]"]⟩
      let q : Page := ⟨p.segments ++ [.dynamic "[...v"]⟩
      parse "/([x])/@[y]/[z/w]" = .ok p
      ∧ parse "/([x])/@[y]/[z/w]/[[...v]" = .ok q
      ∧ (∃ marked, p.appendMarker (some .page) = .ok marked ∧ marked.urlPath.isDynamic = false)
      ∧ ∃ marked, q.appendMarker none = .ok marked ∧ marked.urlPath.isDynamic = true := by
  intro p q
  have read : parse "/([x])/@[y]/[z/w]" = .ok p := by decide
  have readOn : parse "/([x])/@[y]/[z/w]/[[...v]" = .ok q := by decide
  obtain ⟨marked, appended, told, _⟩ := isDynamic_iff_bracketed read (some .page)
  obtain ⟨onwards, appendedOn, toldOn, _⟩ := isDynamic_iff_bracketed readOn none
  refine ⟨read, readOn, ⟨marked, appended, ?_⟩, onwards, appendedOn, toldOn.mpr ?_⟩
  · rw [← Bool.not_eq_true, told]
    decide
  · decide

end Page

end DirectoryRoutes
