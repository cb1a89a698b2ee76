import DirectoryRoutes.Proofs.Results
import DirectoryRoutes.Segment.Token

/-! Tokens and the forms they are written in. A form reads exactly the tokens that it writes, so a
segment renders to the token it was read from, and only two forms give a catch-all.
-/

namespace DirectoryRoutes.Segment

-----------------------------------------------------------------------------------------
-- Forms read what they write
-----------------------------------------------------------------------------------------

def Form.write (form : Form) (name : String) : String :=
  String.ofList form.opening ++ name ++ String.ofList form.closing

/-- What stands between an opening and a closing is found if and only if they do not overlap. -/
theorem between?_eq_some_iff {opening closing token name : List Char}
    : between? opening closing token = some name ↔ token = opening ++ name ++ closing := by
  unfold between?
  constructor
  · intro found
    split at found
    · rename_i opened
      obtain ⟨inner, rfl⟩ := List.isPrefixOf_iff_prefix.mp opened
      simp only [List.drop_left] at found
      split at found
      · rename_i closed
        obtain ⟨text, rfl⟩ := List.isSuffixOf_iff_suffix.mp closed
        simp only [List.length_append, Nat.add_sub_cancel, List.take_left, Option.some.injEq]
          at found
        simp only [found, List.append_assoc]
      · simp at found
    · simp at found
  · intro written
    simp [written, List.append_assoc]

/-- A form reads the tokens that it writes and no others. -/
theorem Form.read?_eq_some_iff {form : Form} {token : String} {s : Segment}
    : form.read? token = some s ↔ ∃ name, token = form.write name ∧ s = form.build name := by
  simp only [Form.read?, Option.map_eq_some_iff, between?_eq_some_iff]
  constructor
  · intro between
    obtain ⟨name, written, rfl⟩ := between
    refine ⟨String.ofList name, ?_, rfl⟩
    rw [← String.toList_inj, written]
    simp [Form.write]
  · intro written
    obtain ⟨name, rfl, rfl⟩ := written
    exact ⟨name.toList, by simp [Form.write], by simp⟩

/-- A segment that a form builds is written as the form writes its name, by cases on the form. -/
theorem render_build {form : Form} (listed : form ∈ forms) (name : String)
    : (form.build name).render = form.write name := by
  simp only [forms, List.mem_cons, List.not_mem_nil, or_false] at listed
  rcases listed with rfl | rfl | rfl | rfl | rfl <;>
    simp [render, Form.write]

-----------------------------------------------------------------------------------------
-- The segment of a token
-----------------------------------------------------------------------------------------

/-- A token has the segment of a listed form that writes it, or else it is static as a whole. -/
theorem classify_cases (token : String)
    : (∃ form ∈ forms, ∃ name, token = form.write name ∧ classify token = form.build name)
      ∨ classify token = static token := by
  unfold classify
  cases found : forms.findSome? (·.read? token) with
  | none => exact Or.inr rfl
  | some s =>
      obtain ⟨form, listed, read⟩ := List.exists_of_findSome?_eq_some found
      obtain ⟨name, written, rfl⟩ := Form.read?_eq_some_iff.mp read
      exact Or.inl ⟨form, listed, name, written, rfl⟩

/-- A segment is written as the token that it is read from. -/
@[simp]
theorem render_classify (token : String) : (classify token).render = token := by
  rcases classify_cases token with ⟨form, listed, name, written, built⟩ | static
  · rw [built, render_build listed, written]
  · rw [static, render]

/-- No token is read as a marker. -/
@[simp]
theorem isMarker_classify (token : String) : (classify token).isMarker = false := by
  rcases classify_cases token with ⟨form, listed, name, _, built⟩ | static
  · simp only [forms, List.mem_cons, List.not_mem_nil, or_false] at listed
    rcases listed with rfl | rfl | rfl | rfl | rfl <;> simp [built, isMarker]
  · simp [static, isMarker]

/-- A token is read if and only if it holds a character and no separator; it then has the segment of
the first form that fits.
-/
theorem parse_eq_ok_iff {token : String} {s : Segment}
    : parse token = .ok s ↔ token ≠ "" ∧ '/' ∉ token.toList ∧ s = classify token := by
  unfold parse
  split
  · simp [*]
  · split
    · simp [*]
    · simp [*, eq_comm]

/-- Tokens that are neither empty nor hold a separator are read. -/
theorem mapM_parse {tokens : List String}
    (readable : ∀ token ∈ tokens, token ≠ "" ∧ '/' ∉ token.toList)
    : tokens.mapM parse = .ok (tokens.map classify) := by
  rw [mapM_eq_ok_iff, List.map_map]
  apply List.map_congr_left
  intro token member
  exact parse_eq_ok_iff.mpr ⟨(readable token member).1, (readable token member).2, rfl⟩

-----------------------------------------------------------------------------------------
-- Tokens of a catch-all
-----------------------------------------------------------------------------------------

/-- The token is written as a catch-all, for one or more components or for any number of them. -/
def CatchAllToken (token : String) : Prop :=
  ∃ name, token = "[..." ++ name ++ "]" ∨ token = "[[..." ++ name ++ "]]"

/-- A token stands for a catch-all if and only if it is written as one: none of the forms that are
tried before opens like it.
-/
theorem isCatchAll_classify_iff (token : String)
    : (classify token).isCatchAll = true ↔ CatchAllToken token := by
  constructor
  · intro catching
    rcases classify_cases token with ⟨form, listed, name, written, built⟩ | static
    · simp only [forms, List.mem_cons, List.not_mem_nil, or_false] at listed
      rcases listed with rfl | rfl | rfl | rfl | rfl <;>
        simp only [built, isCatchAll, Bool.false_eq_true] at catching
      · exact ⟨name, Or.inr written⟩
      · exact ⟨name, Or.inl written⟩
    · simp [static, isCatchAll] at catching
  · intro written
    rcases written with ⟨name, rfl | rfl⟩ <;>
      simp [classify, forms, Form.read?, between?, isCatchAll]

/-- A catch-all has characters. -/
theorem CatchAllToken.ne_empty {token : String} (written : CatchAllToken token) : token ≠ "" := by
  obtain ⟨name, rfl | rfl⟩ := written <;> simp

end DirectoryRoutes.Segment
