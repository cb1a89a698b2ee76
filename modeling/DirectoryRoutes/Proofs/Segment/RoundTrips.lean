import DirectoryRoutes.Proofs.Segment.TokenForms

/-! Tokens and segments, there and back. A token that is read renders to itself. A segment that is
rendered is read back if and only if no form that is tried before its own writes its text too.
-/

namespace DirectoryRoutes

-----------------------------------------------------------------------------------------
-- How a text begins and ends
-----------------------------------------------------------------------------------------

namespace Text

def Begins (opening text : String) : Prop :=
  opening.toList <+: text.toList

def Ends (closing text : String) : Prop :=
  closing.toList <:+ text.toList

/-- A text begins with another if it goes on from there. -/
theorem begins_iff {opening text : String}
    : Begins opening text ↔ ∃ rest, text = opening ++ rest := by
  constructor
  · intro begins
    obtain ⟨rest, split⟩ := begins
    refine ⟨String.ofList rest, ?_⟩
    rw [← String.toList_inj, ← split]
    simp
  · intro begins
    obtain ⟨rest, rfl⟩ := begins
    exact ⟨rest.toList, by simp⟩

/-- A text that begins with one text and ends with another, which share no character, holds both one
after the other: an overlap would hold characters of both.
-/
theorem begins_and_ends_iff {opening closing text : String}
    (apart : ∀ c ∈ opening.toList, c ∉ closing.toList)
    : Begins opening text ∧ Ends closing text ↔ ∃ inner, text = opening ++ inner ++ closing := by
  constructor
  · intro enclosed
    obtain ⟨⟨rest, opened⟩, ⟨body, closed⟩⟩ := enclosed
    rcases List.append_eq_append_iff.mp (opened.trans closed.symm) with
      ⟨inner, rfl, split⟩ | ⟨overlap, shared, split⟩
    · refine ⟨String.ofList inner, ?_⟩
      rw [← String.toList_inj, ← closed]
      simp
    · have empty : overlap = [] := by
        refine List.eq_nil_iff_forall_not_mem.mpr fun c member => ?_
        exact apart c (by simp [shared, member]) (by simp [split, member])
      refine ⟨"", ?_⟩
      rw [← String.toList_inj, ← opened]
      simp [split, empty]
  · intro between
    obtain ⟨inner, rfl⟩ := between
    exact ⟨⟨inner.toList ++ closing.toList, by simp⟩, ⟨opening.toList ++ inner.toList, by simp⟩⟩

end Text

namespace Segment

open Text (Begins Ends begins_iff begins_and_ends_iff)

-----------------------------------------------------------------------------------------
-- The form that a token is read by
-----------------------------------------------------------------------------------------

def Form.Writes (form : Form) (token : String) : Prop :=
  ∃ name, token = form.write name

/-- A form reads no token that it does not write. -/
theorem Form.read?_eq_none_iff {form : Form} {token : String}
    : form.read? token = none ↔ ¬ form.Writes token := by
  constructor
  · intro unread written
    obtain ⟨name, written⟩ := written
    simp [Form.read?_eq_some_iff.mpr ⟨name, written, rfl⟩] at unread
  · intro unwritten
    refine Option.eq_none_iff_forall_ne_some.mpr fun s read => ?_
    obtain ⟨name, written, _⟩ := Form.read?_eq_some_iff.mp read
    exact unwritten ⟨name, written⟩

/-- No form reads a token if and only if none writes it. -/
theorem findSome?_read?_eq_none_iff {list : List Form} {token : String}
    : list.findSome? (·.read? token) = none ↔ ∀ form ∈ list, ¬ form.Writes token := by
  simp only [List.findSome?_eq_none_iff, Form.read?_eq_none_iff]

/-- No two forms build the same segment. -/
theorem build_ne_build : forms.Pairwise fun form other => ∀ n m, form.build n ≠ other.build m := by
  simp [forms]

/-- A token has the segment that a form builds for a name if and only if the form writes it for that
name and no form that is tried before writes it.
-/
theorem classify_eq_build_iff {before after : List Form} {form : Form}
    (order : forms = before ++ form :: after) {token name : String}
    : classify token = form.build name
      ↔ token = form.write name ∧ ∀ other ∈ before, ¬ other.Writes token := by
  rw [← findSome?_read?_eq_none_iff]
  constructor
  · intro built
    have listed : form ∈ forms := by simp [order]
    refine ⟨by rw [← render_build listed, ← built, render_classify], ?_⟩
    by_contra read
    obtain ⟨s, first⟩ := Option.ne_none_iff_exists'.mp read
    have taken : classify token = s := by simp [classify, order, first]
    obtain ⟨other, earlier, read⟩ := List.exists_of_findSome?_eq_some first
    obtain ⟨name', _, rfl⟩ := Form.read?_eq_some_iff.mp read
    have apart := build_ne_build
    rw [order, List.pairwise_append] at apart
    exact apart.2.2 other earlier form (by simp) name' name (taken.symm.trans built)
  · intro unclaimed
    obtain ⟨written, skipped⟩ := unclaimed
    have read : form.read? token = some (form.build name) :=
      Form.read?_eq_some_iff.mpr ⟨name, written, rfl⟩
    simp [classify, order, skipped, read]

/-- A token is read as static if and only if no form writes it. -/
theorem classify_eq_static_iff {token : String}
    : classify token = static token ↔ ∀ form ∈ forms, ¬ form.Writes token := by
  rw [← findSome?_read?_eq_none_iff]
  constructor
  · intro whole
    by_contra read
    obtain ⟨s, first⟩ := Option.ne_none_iff_exists'.mp read
    have taken : classify token = s := by simp [classify, first]
    obtain ⟨form, listed, read⟩ := List.exists_of_findSome?_eq_some first
    obtain ⟨name, _, rfl⟩ := Form.read?_eq_some_iff.mp read
    have built := taken.symm.trans whole
    simp only [forms, List.mem_cons, List.not_mem_nil, or_false] at listed
    rcases listed with rfl | rfl | rfl | rfl | rfl <;> simp at built
  · intro skipped
    simp [classify, skipped]

-----------------------------------------------------------------------------------------
-- The forms one by one
-----------------------------------------------------------------------------------------

/-- A name in parentheses is read as a group. -/
theorem classify_group (name : String) : classify ("(" ++ name ++ ")") = group name := by
  have order : forms = [] ++ ⟨['('], [')'], group⟩ :: forms.drop 1 := rfl
  exact (classify_eq_build_iff order).mpr ⟨rfl, by simp⟩

/-- A name behind an at sign is read as a slot. -/
theorem classify_parallel (name : String) : classify ("@" ++ name) = parallel name := by
  have order : forms = forms.take 1 ++ ⟨['@'], [], parallel⟩ :: forms.drop 2 := rfl
  refine (classify_eq_build_iff order).mpr ⟨by simp [Form.write], ?_⟩
  simp [forms, Form.Writes, Form.write, ← String.toList_inj]

/-- A name in double brackets behind dots is read as an optional catch-all, since the first form
writes it.
-/
theorem classify_optionalCatchAll (name : String)
    : classify ("[[..." ++ name ++ "]]") = optionalCatchAll name := by
  have order : forms
      = forms.take 2 ++ ⟨['[', '[', '.', '.', '.'], [']', ']'], optionalCatchAll⟩ :: forms.drop 3 :=
    rfl
  refine (classify_eq_build_iff order).mpr ⟨rfl, ?_⟩
  simp [forms, Form.Writes, Form.write, ← String.toList_inj]

/-- A name in brackets behind dots is read as a catch-all, since the forms before it do not write
it.
-/
theorem classify_catchAll (name : String) : classify ("[..." ++ name ++ "]") = catchAll name := by
  have order : forms
      = forms.take 3 ++ ⟨['[', '.', '.', '.'], [']'], catchAll⟩ :: forms.drop 4 := rfl
  refine (classify_eq_build_iff order).mpr ⟨rfl, ?_⟩
  simp [forms, Form.Writes, Form.write, ← String.toList_inj]

/-- The text of a catch-all is one in brackets. -/
theorem catchAll_in_brackets (name : String)
    : "[..." ++ name ++ "]" = "[" ++ ("..." ++ name) ++ "]" := by
  simp [← String.toList_inj]

/-- The text of an optional catch-all is that of a catch-all in brackets. -/
theorem optionalCatchAll_in_brackets (name : String)
    : "[[..." ++ name ++ "]]" = "[" ++ ("[..." ++ name ++ "]") ++ "]" := by
  simp [← String.toList_inj]

/-- A text in brackets is read as a placeholder for one component unless what the brackets enclose
begins with dots or begins and ends like a catch-all.
-/
theorem classify_dynamic_iff {name : String}
    : classify ("[" ++ name ++ "]") = dynamic name
      ↔ ¬ Begins "..." name ∧ ¬ (Begins "[..." name ∧ Ends "]" name) := by
  have order : forms = forms.take 4 ++ ⟨['['], [']'], dynamic⟩ :: [] := rfl
  have earlier : (∀ other ∈ forms.take 4, ¬ other.Writes ("[" ++ name ++ "]"))
      ↔ (∀ inner, "[" ++ name ++ "]" ≠ "[..." ++ inner ++ "]")
        ∧ ∀ inner, "[" ++ name ++ "]" ≠ "[[..." ++ inner ++ "]]" := by
    simp [forms, Form.Writes, Form.write, ← String.toList_inj, and_comm]
  rw [classify_eq_build_iff order, earlier, begins_iff, begins_and_ends_iff (by simp)]
  simp only [catchAll_in_brackets, optionalCatchAll_in_brackets, ne_eq, String.append_left_inj,
    String.append_right_inj, not_exists]
  exact and_iff_right rfl

/-- A text is read as static unless it begins like a slot or is enclosed in parentheses or brackets:
both catch-alls are in brackets.
-/
theorem classify_static_iff {name : String}
    : classify name = static name
      ↔ ¬ Begins "@" name
        ∧ ¬ (Begins "(" name ∧ Ends ")" name)
        ∧ ¬ (Begins "[" name ∧ Ends "]" name) := by
  rw [classify_eq_static_iff, begins_iff, begins_and_ends_iff (by simp),
    begins_and_ends_iff (by simp)]
  constructor
  · intro free
    refine ⟨?_, ?_, ?_⟩
    · intro slot
      obtain ⟨inner, rfl⟩ := slot
      exact free ⟨['@'], [], parallel⟩ (by simp [forms]) ⟨inner, by simp [Form.write]⟩
    · intro enclosed
      exact free ⟨['('], [')'], group⟩ (by simp [forms]) enclosed
    · intro enclosed
      exact free ⟨['['], [']'], dynamic⟩ (by simp [forms]) enclosed
  · intro free form listed written
    obtain ⟨noSlot, noGroup, noBrackets⟩ := free
    obtain ⟨inner, written⟩ := written
    simp only [forms, List.mem_cons, List.not_mem_nil, or_false] at listed
    rcases listed with rfl | rfl | rfl | rfl | rfl
    · exact noGroup ⟨inner, written⟩
    · exact noSlot ⟨inner, by simpa [Form.write] using written⟩
    · exact noBrackets ⟨_, written.trans (optionalCatchAll_in_brackets inner)⟩
    · exact noBrackets ⟨_, written.trans (catchAll_in_brackets inner)⟩
    · exact noBrackets ⟨inner, written⟩

-----------------------------------------------------------------------------------------
-- Tokens that are read, and rendered again
-----------------------------------------------------------------------------------------

/-- A token is read exactly if it holds a character and no separator, and its segment, which is
never a marker, renders to it. Of the two reasons to refuse a token the one names the token.
-/
theorem parse_token_exact (token : String)
    : (parse token = .error .emptySegment ↔ token = "")
      ∧ (∀ carried,
          parse token = .error (.illegalSlash carried) ↔ '/' ∈ token.toList ∧ carried = token)
      ∧ (token ≠ "" ∧ '/' ∉ token.toList
          ↔ ∃ s, parse token = .ok s ∧ s.isMarker = false ∧ s.render = token) := by
  refine ⟨?_, ?_, ?_⟩
  · unfold parse
    grind
  · intro carried
    by_cases empty : token = ""
    · simp [parse, empty]
    · by_cases slash : '/' ∈ token.toList
      · simp [parse, empty, slash, eq_comm]
      · simp [parse, empty, slash]
  · constructor
    · intro readable
      refine ⟨classify token, parse_eq_ok_iff.mpr ⟨readable.1, readable.2, rfl⟩, ?_, ?_⟩
      · exact isMarker_classify token
      · exact render_classify token
    · intro reading
      obtain ⟨s, read, _⟩ := reading
      obtain ⟨nonempty, plain, _⟩ := parse_eq_ok_iff.mp read
      exact ⟨nonempty, plain⟩

-----------------------------------------------------------------------------------------
-- Segments that are rendered, and read back
-----------------------------------------------------------------------------------------

/-- The text of the segment is a token of its own shape only: the name holds no separator, and it
does not make the text begin and end like that of another shape. The word of a marker is static.
-/
def Unambiguous : Segment → Prop
  | static name =>
      '/' ∉ name.toList
      ∧ name ≠ ""
      ∧ ¬ Begins "@" name
      ∧ ¬ (Begins "(" name ∧ Ends ")" name)
      ∧ ¬ (Begins "[" name ∧ Ends "]" name)
  | dynamic name =>
      '/' ∉ name.toList
      ∧ ¬ Begins "..." name
      ∧ ¬ (Begins "[..." name ∧ Ends "]" name)
  | catchAll name | optionalCatchAll name | group name | parallel name => '/' ∉ name.toList
  | marker _ => False

/-- A segment is the reading of some token if and only if it is the reading of its own text. -/
theorem exists_parse_iff {s : Segment}
    : (∃ token, parse token = .ok s)
      ↔ s.render ≠ "" ∧ '/' ∉ s.render.toList ∧ classify s.render = s := by
  constructor
  · intro reading
    obtain ⟨token, read⟩ := reading
    obtain ⟨nonempty, plain, rfl⟩ := parse_eq_ok_iff.mp read
    simp [nonempty, plain]
  · intro own
    obtain ⟨nonempty, plain, same⟩ := own
    exact ⟨s.render, parse_eq_ok_iff.mpr ⟨nonempty, plain, same.symm⟩⟩

/-- A rendered segment is read back exactly if its text is unambiguous, by cases on its shape. -/
theorem parse_render_iff_unambiguous (s : Segment)
    : parse s.render = .ok s ↔ s.Unambiguous := by
  rw [parse_eq_ok_iff, eq_comm (a := s)]
  cases s with
  | static name =>
      simp only [render, Unambiguous, classify_static_iff]
      exact and_left_comm
  | dynamic name => simp [render, Unambiguous, classify_dynamic_iff]
  | catchAll name => simp [render, Unambiguous, classify_catchAll]
  | optionalCatchAll name => simp [render, Unambiguous, classify_optionalCatchAll]
  | group name => simp [render, Unambiguous, classify_group]
  | parallel name => simp [render, Unambiguous, classify_parallel]
  | marker kind =>
      have unmarked : classify kind.word ≠ marker kind := by
        intro same
        simpa [same, isMarker] using isMarker_classify kind.word
      simp [render, Unambiguous, unmarked]

example : parse (dynamic "[...x]").render = .ok (optionalCatchAll "x") := by decide

end Segment

end DirectoryRoutes
