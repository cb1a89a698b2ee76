import DirectoryRoutes.Proofs.Segment.RoundTrips

/-! Tokens by how they begin and end. The forms share their openings and are tried in an order, yet
the kind of a token's segment can be told without the order: each form but the last reads all tokens
that begin and end like it, and the last one reads those in brackets that no catch-all reads.
-/

namespace DirectoryRoutes.Segment

open Text (Begins Ends begins_and_ends_iff)

variable {token : String}

-----------------------------------------------------------------------------------------
-- Forms by their ends
-----------------------------------------------------------------------------------------

/-- A form writes the tokens that begin with its opening and end with its closing: these share no
character, so they do not overlap.
-/
theorem Form.writes_iff {form : Form} (listed : form ∈ forms)
    : form.Writes token
      ↔ Begins (String.ofList form.opening) token ∧ Ends (String.ofList form.closing) token := by
  refine (begins_and_ends_iff ?_).symm
  simp only [forms, List.mem_cons, List.not_mem_nil, or_false] at listed
  rcases listed with rfl | rfl | rfl | rfl | rfl <;> simp

/-- A form that reads whatever it writes gives a token its segment if and only if it writes it. -/
theorem Form.exists_build_iff {form : Form} (listed : form ∈ forms)
    (own : ∀ name, classify (form.write name) = form.build name)
    : (∃ name, classify token = form.build name) ↔ form.Writes token := by
  constructor
  · intro built
    obtain ⟨name, built⟩ := built
    exact ⟨name, by rw [← render_build listed, ← built, render_classify]⟩
  · intro written
    obtain ⟨name, rfl⟩ := written
    exact ⟨name, own name⟩

/-- A token is read as a group if and only if parentheses stand around it. -/
theorem exists_group_iff
    : (∃ name, classify token = group name) ↔ Begins "(" token ∧ Ends ")" token := by
  have listed : ⟨['('], [')'], group⟩ ∈ forms := by simp [forms]
  exact (Form.exists_build_iff listed classify_group).trans (Form.writes_iff listed)

/-- A token is read as a slot if and only if it begins with an at sign. -/
theorem exists_parallel_iff : (∃ name, classify token = parallel name) ↔ Begins "@" token := by
  have listed : ⟨['@'], [], parallel⟩ ∈ forms := by simp [forms]
  have own (name : String) : classify (Form.write ⟨['@'], [], parallel⟩ name) = parallel name := by
    simpa [Form.write] using classify_parallel name
  refine (Form.exists_build_iff listed own).trans ((Form.writes_iff listed).trans ?_)
  exact and_iff_left List.nil_suffix

/-- A token is read as an optional catch-all if and only if double brackets stand around it and dots
behind the first ones.
-/
theorem exists_optionalCatchAll_iff
    : (∃ name, classify token = optionalCatchAll name)
      ↔ Begins "[[..." token ∧ Ends "]]" token := by
  have listed : ⟨['[', '[', '.', '.', '.'], [']', ']'], optionalCatchAll⟩ ∈ forms := by simp [forms]
  exact (Form.exists_build_iff listed classify_optionalCatchAll).trans (Form.writes_iff listed)

/-- A token is read as a catch-all if and only if brackets stand around it and dots behind the first
one.
-/
theorem exists_catchAll_iff
    : (∃ name, classify token = catchAll name) ↔ Begins "[..." token ∧ Ends "]" token := by
  have listed : ⟨['[', '.', '.', '.'], [']'], catchAll⟩ ∈ forms := by simp [forms]
  exact (Form.exists_build_iff listed classify_catchAll).trans (Form.writes_iff listed)

-----------------------------------------------------------------------------------------
-- Tokens by their ends
-----------------------------------------------------------------------------------------

/-- What no form reads is static: to be in no brackets is to be neither catch-all. -/
theorem exists_static_iff
    : (∃ name, classify token = static name)
      ↔ ¬ (Begins "(" token ∧ Ends ")" token)
        ∧ ¬ Begins "@" token
        ∧ ¬ (Begins "[[..." token ∧ Ends "]]" token)
        ∧ ¬ (Begins "[..." token ∧ Ends "]" token)
        ∧ ¬ (Begins "[" token ∧ Ends "]" token) := by
  have optional (enclosed : Begins "[[..." token ∧ Ends "]]" token)
      : Begins "[" token ∧ Ends "]" token :=
    ⟨List.IsPrefix.trans (by simp) enclosed.1, List.IsSuffix.trans (by simp) enclosed.2⟩
  have catching (enclosed : Begins "[..." token ∧ Ends "]" token)
      : Begins "[" token ∧ Ends "]" token :=
    ⟨List.IsPrefix.trans (by simp) enclosed.1, enclosed.2⟩
  constructor
  · intro whole
    obtain ⟨name, whole⟩ := whole
    have same : name = token := by simpa [whole, render] using render_classify token
    obtain ⟨noSlot, noGroup, noBrackets⟩ := classify_static_iff.mp (same ▸ whole)
    exact ⟨noGroup, noSlot, mt optional noBrackets, mt catching noBrackets, noBrackets⟩
  · intro free
    obtain ⟨noGroup, noSlot, _, _, noBrackets⟩ := free
    exact ⟨token, classify_static_iff.mpr ⟨noSlot, noGroup, noBrackets⟩⟩

/-- What is in brackets is left to the last form unless the two before it read it, by cases on the
segment of the token.
-/
theorem exists_dynamic_iff
    : (∃ name, classify token = dynamic name)
      ↔ (Begins "[" token ∧ Ends "]" token)
        ∧ ¬ (Begins "[[..." token ∧ Ends "]]" token)
        ∧ ¬ (Begins "[..." token ∧ Ends "]" token) := by
  rw [← exists_optionalCatchAll_iff, ← exists_catchAll_iff]
  constructor
  · intro built
    obtain ⟨name, built⟩ := built
    have written : token = "[" ++ name ++ "]" := by
      rw [← render_classify token, built, render]
    refine ⟨(begins_and_ends_iff (by simp)).mpr ⟨name, written⟩, ?_, ?_⟩ <;> simp [built]
  · intro enclosed
    obtain ⟨brackets, notOptional, notCatchAll⟩ := enclosed
    have opened {other : String} (begins : Begins other token)
        : "[".toList <+: other.toList ∨ other.toList <+: "[".toList :=
      List.prefix_or_prefix_of_prefix brackets.1 begins
    cases kind : classify token with
    | static name => exact absurd brackets (exists_static_iff.mp ⟨name, kind⟩).2.2.2.2
    | dynamic name => exact ⟨name, rfl⟩
    | catchAll name => exact absurd ⟨name, kind⟩ notCatchAll
    | optionalCatchAll name => exact absurd ⟨name, kind⟩ notOptional
    | group name =>
        have clash := opened (exists_group_iff.mp ⟨name, kind⟩).1
        simp at clash
    | parallel name =>
        have clash := opened (exists_parallel_iff.mp ⟨name, kind⟩)
        simp at clash
    | marker word =>
        have unmarked := isMarker_classify token
        simp [kind, isMarker] at unmarked

/-- The kind of a token's segment can be read off the ends of the token, in any order, and the name
is all that lies between these ends, which never overlap. A token of no form is the name itself.
-/
theorem parse_by_ends (nonempty : token ≠ "") (plain : '/' ∉ token.toList)
    : ∃ s,
        parse token = .ok s
        ∧ ((∃ name, s = group name) ↔ Begins "(" token ∧ Ends ")" token)
        ∧ ((∃ name, s = parallel name) ↔ Begins "@" token)
        ∧ ((∃ name, s = optionalCatchAll name) ↔ Begins "[[..." token ∧ Ends "]]" token)
        ∧ ((∃ name, s = catchAll name) ↔ Begins "[..." token ∧ Ends "]" token)
        ∧ ((∃ name, s = dynamic name)
            ↔ (Begins "[" token ∧ Ends "]" token)
              ∧ ¬ (Begins "[[..." token ∧ Ends "]]" token)
              ∧ ¬ (Begins "[..." token ∧ Ends "]" token))
        ∧ ((∃ name, s = static name)
            ↔ ¬ (Begins "(" token ∧ Ends ")" token)
              ∧ ¬ Begins "@" token
              ∧ ¬ (Begins "[[..." token ∧ Ends "]]" token)
              ∧ ¬ (Begins "[..." token ∧ Ends "]" token)
              ∧ ¬ (Begins "[" token ∧ Ends "]" token))
        ∧ (∀ form ∈ forms, ∀ name,
            s = form.build name
            → token = String.ofList form.opening ++ name ++ String.ofList form.closing)
        ∧ ∀ name, s = static name → name = token := by
  have read : parse token = .ok (classify token) := parse_eq_ok_iff.mpr ⟨nonempty, plain, rfl⟩
  refine ⟨classify token, read, exists_group_iff, exists_parallel_iff, exists_optionalCatchAll_iff,
    exists_catchAll_iff, exists_dynamic_iff, exists_static_iff, ?_, ?_⟩
  · intro form listed name built
    rw [← render_classify token, built]
    exact render_build listed name
  · intro name whole
    rw [← render_classify token, whole, render]

/-- An optional catch-all that lacks a bracket is no catch-all of either kind: what its outer
brackets enclose is the name of a placeholder for one component.
-/
theorem parse_by_ends_of_unclosed
    : ∃ name, parse "[[...]" = .ok (dynamic name) ∧ "[[...]" = "[" ++ name ++ "]" := by
  obtain ⟨s, read, _, _, _, _, placeholder, _, between, _⟩ :=
    parse_by_ends (show "[[...]" ≠ "" by decide) (by decide)
  have brackets : Begins "[" "[[...]" ∧ Ends "]" "[[...]" :=
    (begins_and_ends_iff (by simp)).mpr ⟨"[...", by decide⟩
  have notOptional : ¬ (Begins "[[..." "[[...]" ∧ Ends "]]" "[[...]") :=
    fun enclosed => absurd enclosed.2 (by decide : ¬ "]]".toList <:+ "[[...]".toList)
  have notCatchAll : ¬ (Begins "[..." "[[...]" ∧ Ends "]" "[[...]") :=
    fun enclosed => absurd enclosed.1 (by decide : ¬ "[...".toList <+: "[[...]".toList)
  obtain ⟨name, rfl⟩ := placeholder.mpr ⟨brackets, notOptional, notCatchAll⟩
  exact ⟨name, read, between ⟨['['], [']'], dynamic⟩ (by simp [forms]) name rfl⟩

end DirectoryRoutes.Segment
