import DirectoryRoutes.Proofs.Workbench.StepEffects

/-! Tokens that are given to a page one after another, the run going on behind each refusal. The
page is closed for good by the first token of a catch-all that can be read: only an empty token is
not refused from then on, and nothing is added any more.
-/

namespace DirectoryRoutes

open Segment (CatchAllToken classify)

instance (token : String) : Decidable (CatchAllToken token) :=
  decidable_of_iff _ (Segment.isCatchAll_classify_iff token)

namespace Page

-----------------------------------------------------------------------------------------
-- Which tokens a page keeps
-----------------------------------------------------------------------------------------

def Readable (token : String) : Prop :=
  token ≠ "" ∧ '/' ∉ token.toList

instance : DecidablePred Readable :=
  fun _ => inferInstanceAs (Decidable (_ ∧ _))

instance (before : List String) (token : String) : Decidable (Refused before token) :=
  inferInstanceAs (Decidable (_ ∧ _))

/-- The tokens up to the first one that is written as a catch-all, and that one. -/
def upToCatchAll : List String → List String
  | [] => []
  | token :: rest => if CatchAllToken token then [token] else token :: upToCatchAll rest

/-- The tokens that a page keeps of all that are given to it. -/
def kept (tokens : List String) : List String :=
  upToCatchAll (tokens.filter Readable)

/-- A last token is left out behind a catch-all, by induction on those before it. -/
theorem upToCatchAll_append_singleton (tokens : List String) (token : String)
    : upToCatchAll (tokens ++ [token])
      = if ∃ earlier ∈ tokens, CatchAllToken earlier then upToCatchAll tokens
        else upToCatchAll tokens ++ [token] := by
  induction tokens with
  | nil => simp [upToCatchAll]
  | cons first rest ih =>
      by_cases head : CatchAllToken first
      · simp [upToCatchAll, head]
      · by_cases later : ∃ earlier ∈ rest, CatchAllToken earlier <;>
          simp [upToCatchAll, head, ih, later]

/-- Tokens are only left out, by induction on them. -/
theorem upToCatchAll_sublist (tokens : List String) : (upToCatchAll tokens).Sublist tokens := by
  induction tokens with
  | nil => exact .slnil
  | cons first rest ih =>
      unfold upToCatchAll
      split
      · simp
      · exact ih.cons_cons first

/-- A catch-all is kept if one comes: the first one. -/
theorem exists_mem_upToCatchAll_iff {tokens : List String}
    : (∃ token ∈ upToCatchAll tokens, CatchAllToken token)
      ↔ ∃ token ∈ tokens, CatchAllToken token := by
  induction tokens with
  | nil => simp [upToCatchAll]
  | cons first rest ih =>
      by_cases head : CatchAllToken first
      · simp [upToCatchAll, head]
      · simp [upToCatchAll, head, ih]

/-- A token that is kept is one of those that can be read. -/
theorem readable_of_mem_kept {tokens : List String} {token : String} (member : token ∈ kept tokens)
    : token ∈ tokens ∧ Readable token := by
  simpa using (upToCatchAll_sublist _).subset member

/-- A catch-all is kept if and only if one can be read. -/
theorem exists_mem_kept_iff {tokens : List String}
    : (∃ token ∈ kept tokens, CatchAllToken token)
      ↔ ∃ token ∈ tokens, Readable token ∧ CatchAllToken token := by
  simp [kept, exists_mem_upToCatchAll_iff, and_assoc]

/-- No token that is kept is empty. -/
theorem filter_kept (tokens : List String) : (kept tokens).filter (· ≠ "") = kept tokens :=
  List.filter_eq_self.mpr fun _ member => by simpa using (readable_of_mem_kept member).2.1

/-- One more token is kept if and only if it holds a character and is not refused behind those that
are kept.
-/
theorem kept_append_singleton (tokens : List String) (token : String)
    : kept (tokens ++ [token])
      = if token = "" ∨ Refused (kept tokens) token then kept tokens
        else kept tokens ++ [token] := by
  by_cases readable : Readable token
  · have more : (tokens ++ [token]).filter Readable = tokens.filter Readable ++ [token] := by
      simp [readable]
    have blocked : (token = "" ∨ Refused (kept tokens) token)
        ↔ ∃ earlier ∈ tokens.filter Readable, CatchAllToken earlier := by
      simp [Refused, readable.1, readable.2, kept, exists_mem_upToCatchAll_iff]
    simp only [blocked]
    rw [kept, more, upToCatchAll_append_singleton]
    rfl
  -- A token that cannot be read is not kept, whether it is passed over or refused.
  · have same : (tokens ++ [token]).filter Readable = tokens.filter Readable := by
      simp [readable]
    have blocked : token = "" ∨ Refused (kept tokens) token := by
      by_cases empty : token = ""
      · exact Or.inl empty
      · refine Or.inr ⟨empty, Or.inl ?_⟩
        by_contra plain
        exact readable ⟨empty, plain⟩
    rw [if_pos blocked, kept, same, kept]

/-- The tokens that are kept are accepted, by induction from their end. -/
theorem accepted_kept (tokens : List String) : Accepted (kept tokens) := by
  induction tokens using List.reverseRecOn with
  | nil => exact accepted_nil
  | append_singleton before token ih =>
      rw [kept_append_singleton]
      split
      · exact ih
      · rename_i free
        exact accepted_append_singleton_iff.mpr ⟨ih, fun refused => free (Or.inr refused)⟩

/-- A token is given to the page of those that are kept: it is refused behind them, or the page of
what is then kept comes out.
-/
theorem appendToken_kept (tokens : List String) (token : String)
    : appendToken ⟨(kept tokens).map classify⟩ token
      = if Refused (kept tokens) token then .error (refusal (kept tokens) token)
        else .ok ⟨(kept (tokens ++ [token])).map classify⟩ := by
  split
  · rename_i refused
    simpa only [filter_kept] using appendToken_of_refused (accepted_kept tokens) refused
  · rename_i free
    have appended := appendToken_of_not_refused free
    rw [List.filter_append, filter_kept] at appended
    rw [appended, kept_append_singleton]
    by_cases empty : token = ""
    · simp [empty]
    · simp [empty, free]

end Page

namespace Workbench

-----------------------------------------------------------------------------------------
-- Tokens as steps of a program
-----------------------------------------------------------------------------------------

def tokenSteps (name : String) (tokens : List String) : List Step :=
  .new name [] :: tokens.map (.appendToken name)

/-- The last token is a step after those before it. -/
theorem run_tokenSteps_append_singleton (w : Workbench) (name : String) (tokens : List String)
    (token : String)
    : w.run (tokenSteps name (tokens ++ [token]))
      = ((w.run (tokenSteps name tokens)).take (.appendToken name token)).1 := by
  simp [run, tokenSteps, List.foldl_append]

/-- A token that is refused is a step that fails and leaves all values. -/
theorem take_of_refused {w : Workbench} {name token : String} {tokens : List String}
    (found : Table.get? name w = some (.page ⟨(Page.kept tokens).map classify⟩))
    (refused : Page.Refused (Page.kept tokens) token)
    : w.take (.appendToken name token)
      = (w, .error (.segment (Page.refusal (Page.kept tokens) token))) := by
  rw [(changes_appendToken _ name token).take found, Page.appendToken_kept, if_pos refused]

/-- A token that is not refused is a step to the page that keeps it. -/
theorem take_of_not_refused {w : Workbench} {name token : String} {tokens : List String}
    (found : Table.get? name w = some (.page ⟨(Page.kept tokens).map classify⟩))
    (free : ¬ Page.Refused (Page.kept tokens) token)
    : w.take (.appendToken name token)
      = (Table.set name (.page ⟨(Page.kept (tokens ++ [token])).map classify⟩) w, .ok .done) := by
  rw [(changes_appendToken _ name token).take found, Page.appendToken_kept, if_neg free]

/-- After a run the page has the segments of the tokens that are kept, by induction on the tokens.
-/
theorem get?_run_tokenSteps (w : Workbench) (name : String) (tokens : List String)
    : Table.get? name (w.run (tokenSteps name tokens))
      = some (.page ⟨(Page.kept tokens).map classify⟩) := by
  induction tokens using List.reverseRecOn with
  | nil => exact Table.get?_set_self name _ w
  | append_singleton before token ih =>
      rw [run_tokenSteps_append_singleton]
      by_cases refused : Page.Refused (Page.kept before) token
      · rw [take_of_refused ih refused, Page.kept_append_singleton, if_pos (Or.inr refused)]
        exact ih
      · rw [take_of_not_refused ih refused]
        exact Table.get?_set_self name _ _

/-- A page to which tokens are given, refusals or not, has the segments of the readable ones up to
the first catch-all. A token is refused if and only if it holds a separator, or holds a character
and comes behind a readable catch-all; a separator is the reason wherever the token comes. Nothing
changes by a token that is refused or empty.
-/
theorem run_tokenSteps_exact (w : Workbench) (name : String) (tokens : List String)
    : let given := w.run (tokenSteps name tokens)
      let caught := ∃ earlier ∈ tokens, Page.Readable earlier ∧ CatchAllToken earlier
      ∃ p,
        Table.get? name given = some (.page p)
        ∧ (Page.kept tokens).mapM Segment.parse = .ok p.segments
        ∧ ∀ token,
            let call := given.take (.appendToken name token)
            ((∃ e, call.2 = .error e) ↔ token ≠ "" ∧ ('/' ∈ token.toList ∨ caught))
            ∧ ('/' ∈ token.toList → call.2 = .error (.segment (.illegalSlash token)))
            ∧ (Page.Readable token
                → caught
                → ∃ s,
                    Segment.parse token = .ok s
                    ∧ call.2 = .error (.segment (.invalidAppend s p.segments)))
            ∧ (token = "" ∨ (∃ e, call.2 = .error e) → call.1 = given) := by
  intro given caught
  have found := get?_run_tokenSteps w name tokens
  refine ⟨_, found, Segment.mapM_parse fun _ member => (Page.readable_of_mem_kept member).2, ?_⟩
  intro token call
  have refused_iff : Page.Refused (Page.kept tokens) token
      ↔ token ≠ "" ∧ ('/' ∈ token.toList ∨ caught) := by
    simp only [Page.Refused, Page.exists_mem_kept_iff, caught]
  rw [← refused_iff]
  by_cases refused : Page.Refused (Page.kept tokens) token
  · have taken : call = (given, .error (.segment (Page.refusal (Page.kept tokens) token))) :=
      take_of_refused found refused
    refine ⟨?_, ?_, ?_, ?_⟩
    · simp [taken, refused]
    · intro slash
      simp [taken, Page.refusal, slash]
    · intro readable _
      refine ⟨classify token, Segment.parse_eq_ok_iff.mpr ⟨readable.1, readable.2, rfl⟩, ?_⟩
      rw [taken, Page.refusal, if_neg readable.2, Page.filter_kept]
    · intro _
      rw [taken]
  · have taken : call
        = (Table.set name (.page ⟨(Page.kept (tokens ++ [token])).map classify⟩) given, .ok .done) :=
      take_of_not_refused found refused
    refine ⟨?_, ?_, ?_, ?_⟩
    · simp [taken, refused]
    · intro slash
      refine absurd (refused_iff.mpr ⟨?_, Or.inl slash⟩) refused
      rintro rfl
      simp at slash
    · intro readable catching
      exact absurd (refused_iff.mpr ⟨readable.1, Or.inr catching⟩) refused
    · intro cause
      rcases cause with empty | ⟨e, failed⟩
      · rw [taken, Page.kept_append_singleton, if_pos (Or.inl empty)]
        exact Table.set_of_get? found
      · simp [taken] at failed

example : Page.kept ["a", "x/y", "", "[...s]", "[...s/t]", "b", "[[...t]]"] = ["a", "[...s]"] := by
  decide

end Workbench

end DirectoryRoutes
