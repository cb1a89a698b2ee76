import DirectoryRoutes.Text.Paths
import Mathlib.Data.List.Induction

/-! What lies between the separators of a path. No component holds a separator, and a path that is
put together from names has exactly these names as its components.
-/

namespace DirectoryRoutes.Text

/-- A piece that is split off holds characters of the text, but not the separator, by induction on
the text.
-/
theorem mem_of_mem_splitOn {separator c : Char} {text piece : List Char}
    (member : piece ∈ text.splitOn separator) (inside : c ∈ piece)
    : c ∈ text ∧ c ≠ separator := by
  induction text generalizing piece with
  | nil =>
      rw [List.splitOn_nil, List.mem_singleton] at member
      simp [member] at inside
  | cons first rest ih =>
      have later {piece : List Char} (split : piece ∈ rest.splitOn separator) (there : c ∈ piece)
          : c ∈ first :: rest ∧ c ≠ separator :=
        (ih split there).imp_left (List.mem_cons_of_mem first)
      rw [List.splitOn_cons_eq_if_modifyHead] at member
      split at member
      · rcases List.mem_cons.mp member with rfl | behind
        · cases inside
        · exact later behind inside
      · rename_i different
        cases pieces : rest.splitOn separator with
        | nil => exact absurd pieces (List.splitOn_ne_nil separator rest)
        | cons front others =>
            rw [pieces, List.modifyHead_cons] at member
            rcases List.mem_cons.mp member with rfl | behind
            · rcases List.mem_cons.mp inside with rfl | there
              · exact ⟨List.mem_cons_self, by simpa using different⟩
              · exact later (by simp [pieces]) there
            · exact later (by simp [pieces, behind]) inside

/-- A component holds characters of the path, but no separator. -/
theorem mem_of_mem_components {path component : String} {c : Char}
    (member : component ∈ components path) (inside : c ∈ component.toList)
    : c ∈ path.toList ∧ c ≠ '/' := by
  obtain ⟨piece, split, rfl⟩ := List.mem_map.mp member
  exact mem_of_mem_splitOn split (by simpa using inside)

/-- A component holds no separator, since the path is split at each. -/
theorem not_mem_of_mem_components {path component : String}
    (member : component ∈ components path)
    : '/' ∉ component.toList :=
  fun inside => (mem_of_mem_components member inside).2 rfl

/-- A name is a component that is not empty. -/
theorem ne_empty_of_mem_names {path name : String} (member : name ∈ names path)
    : name ≠ "" ∧ '/' ∉ name.toList := by
  obtain ⟨component, nonempty⟩ := List.mem_filter.mp member
  exact ⟨by simpa using nonempty, not_mem_of_mem_components component⟩

/-- A text without a separator is its only component. -/
theorem components_of_not_mem {text : String} (plain : '/' ∉ text.toList)
    : components text = [text] := by
  simp [components, List.splitOn_eq_singleton plain]

/-- The components on both sides of a separator are those of the path. -/
theorem components_append (left right : String)
    : components (left ++ "/" ++ right) = components left ++ components right := by
  simp [components, List.splitOn_append_cons_self]

/-- Names that are each put behind a separator are found again, by induction on the names. -/
theorem components_join {list : List String} (plain : ∀ name ∈ list, '/' ∉ name.toList)
    : components (String.join (list.map fun name => "/" ++ name)) = "" :: list := by
  induction list using List.reverseRecOn with
  | nil => simp [components]
  | append_singleton before last ih =>
      have first := ih (fun name member => plain name (by simp [member]))
      have final : components last = [last] := components_of_not_mem (plain last (by simp))
      rw [List.map_append, String.join_append, List.map_singleton]
      simp only [String.join_cons, String.join_nil, String.append_empty]
      rw [← String.append_assoc, components_append, first, final]
      simp

/-- A path of proper names has these names. -/
theorem names_rooted {list : List String} (proper : ∀ name ∈ list, name ≠ "" ∧ '/' ∉ name.toList)
    : names (rooted list) = list := by
  have kept : list.filter (· ≠ "") = list :=
    List.filter_eq_self.mpr (fun name member => by simpa using (proper name member).1)
  unfold names rooted
  cases list with
  | nil => simp [components, List.splitOn_cons_eq_if_modifyHead]
  | cons first rest =>
      rw [if_neg (by simp), components_join (fun name member => (proper name member).2)]
      simpa using kept

end DirectoryRoutes.Text
