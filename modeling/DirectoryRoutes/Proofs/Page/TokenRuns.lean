import DirectoryRoutes.Proofs.Page.SegmentOrder
import DirectoryRoutes.Proofs.Segment.TokenForms

/-! Runs of tokens that are put together to a page. A run stops at the first token that is refused,
and whether a token is refused can be read off the tokens before it.
-/

namespace DirectoryRoutes.Page

open Segment (CatchAllToken classify)

-----------------------------------------------------------------------------------------
-- Which token is refused
-----------------------------------------------------------------------------------------

/-- A token is refused behind others if it holds a separator or one of them is written as a
catch-all. An empty token is passed over.
-/
def Refused (before : List String) (token : String) : Prop :=
  token ≠ "" ∧ ('/' ∈ token.toList ∨ ∃ earlier ∈ before, CatchAllToken earlier)

/-- No token is refused behind those before it. -/
def Accepted (tokens : List String) : Prop :=
  ∀ before token after, tokens = before ++ token :: after → ¬ Refused before token

/-- The error for a refused token. A separator is noticed before the order is. -/
def refusal (before : List String) (token : String) : SegmentError :=
  if '/' ∈ token.toList then .illegalSlash token
  else .invalidAppend (classify token) ((before.filter (· ≠ "")).map classify)

/-- The kind of a refusal, by cases on whether the token holds a separator. -/
theorem kind_refusal (before : List String) (token : String)
    : (refusal before token).kind
      = if '/' ∈ token.toList then "illegal_slash" else "invalid_append" := by
  unfold refusal
  split <;> rfl

/-- No token is refused where there is none. -/
theorem accepted_nil : Accepted [] := by
  intro before token after split
  simp at split

/-- Tokens are accepted if and only if those before the last one are and this one is not refused. -/
theorem accepted_append_singleton_iff {tokens : List String} {token : String}
    : Accepted (tokens ++ [token]) ↔ Accepted tokens ∧ ¬ Refused tokens token := by
  constructor
  · intro accepted
    refine ⟨?_, accepted tokens token [] rfl⟩
    intro before earlier after split
    exact accepted before earlier (after ++ [token]) (by simp [split])
  · intro both before other after split
    obtain ⟨accepted, last⟩ := both
    rcases List.eq_nil_or_concat after with rfl | ⟨between, final, rfl⟩
    · obtain ⟨rfl, same⟩ := List.append_inj' split rfl
      exact List.singleton_inj.mp same ▸ last
    · rw [List.concat_eq_append, ← List.cons_append, ← List.append_assoc] at split
      exact accepted before other between (List.append_inj_left' split rfl)

/-- Tokens are accepted if and only if none holds a separator and, of those that hold a character,
at most the last is written as a catch-all.
-/
theorem accepted_iff {tokens : List String}
    : Accepted tokens
      ↔ (∀ token ∈ tokens, '/' ∉ token.toList)
        ∧ ∀ token ∈ (tokens.filter (· ≠ "")).dropLast, ¬ CatchAllToken token := by
  constructor
  · intro accepted
    constructor
    · intro token member slash
      obtain ⟨before, after, split⟩ := List.append_of_mem member
      refine accepted before token after split ⟨?_, Or.inl slash⟩
      intro empty
      simp [empty] at slash
    · intro token early catching
      obtain ⟨before, rest, next, rfl, _, member, nonempty⟩ := mem_dropLast_filter_iff.mp early
      obtain ⟨between, after, rfl⟩ := List.append_of_mem member
      exact accepted (before ++ token :: between) next after (by simp)
        ⟨by simpa using nonempty, Or.inr ⟨token, by simp, catching⟩⟩
  · intro conditions before token after split refused
    obtain ⟨plain, free⟩ := conditions
    obtain ⟨nonempty, cause⟩ := refused
    subst split
    rcases cause with slash | ⟨earlier, member, catching⟩
    · exact plain token (by simp) slash
    · obtain ⟨front, between, rfl⟩ := List.append_of_mem member
      have early : earlier ∈
          ((front ++ earlier :: between ++ token :: after).filter (· ≠ "")).dropLast := by
        apply mem_dropLast_filter_iff.mpr
        exact ⟨front, between ++ token :: after, token, by simp, by simp [catching.ne_empty],
          by simp, by simpa using nonempty⟩
      exact free earlier early catching

/-- A catch-all among accepted tokens is the last of those that hold a character. -/
theorem Accepted.getLast?_eq_some {tokens : List String} {catcher : String}
    (accepted : Accepted tokens) (member : catcher ∈ tokens) (catching : CatchAllToken catcher)
    : (tokens.filter (· ≠ "")).getLast? = some catcher := by
  have kept : catcher ∈ tokens.filter (· ≠ "") :=
    List.mem_filter.mpr ⟨member, by simp [catching.ne_empty]⟩
  by_contra other
  exact (accepted_iff.mp accepted).2 catcher
    (List.mem_dropLast_of_mem_of_ne_getLast? kept (Ne.symm other)) catching

/-- Tokens that are accepted are read, but for those that are empty. -/
theorem Accepted.mapM_parse {tokens : List String} (accepted : Accepted tokens)
    : (tokens.filter (· ≠ "")).mapM Segment.parse
      = .ok ((tokens.filter (· ≠ "")).map classify) := by
  apply Segment.mapM_parse
  intro token kept
  obtain ⟨member, nonempty⟩ := List.mem_filter.mp kept
  exact ⟨by simpa using nonempty, (accepted_iff.mp accepted).1 token member⟩

/-- A token without a separator is refused because of the last token before it that holds a
character, which is the first catch-all.
-/
theorem exists_catcher_of_refused {before : List String} {token : String}
    (accepted : Accepted before) (refused : Refused before token) (plain : '/' ∉ token.toList)
    : ∃ front catcher,
        before.filter (· ≠ "") = front ++ [catcher]
        ∧ (∀ name ∈ front, ¬ CatchAllToken name)
        ∧ CatchAllToken catcher
        ∧ refusal before token
          = .invalidAppend (classify token) ((front ++ [catcher]).map classify) := by
  obtain ⟨catcher, member, catching⟩ := refused.2.resolve_left plain
  obtain ⟨front, shape⟩ :=
    List.getLast?_eq_some_iff.mp (accepted.getLast?_eq_some member catching)
  have free := (accepted_iff.mp accepted).2
  rw [shape, List.dropLast_concat] at free
  exact ⟨front, catcher, shape, free, catching, by rw [refusal, if_neg plain, shape]⟩

/-- Tokens are accepted, or there is a first one that is refused, by induction on the tokens. -/
theorem accepted_or_refused (tokens : List String)
    : Accepted tokens
      ∨ ∃ before token after,
          tokens = before ++ token :: after ∧ Accepted before ∧ Refused before token := by
  induction tokens using List.reverseRecOn with
  | nil => exact Or.inl accepted_nil
  | append_singleton tokens token ih =>
      rcases ih with accepted | ⟨before, first, after, rfl, accepted, refused⟩
      · by_cases refused : Refused tokens token
        · exact Or.inr ⟨tokens, token, [], rfl, accepted, refused⟩
        · exact Or.inl (accepted_append_singleton_iff.mpr ⟨accepted, refused⟩)
      · exact Or.inr ⟨before, first, after ++ [token], by simp, accepted, refused⟩

-----------------------------------------------------------------------------------------
-- What a run of tokens builds
-----------------------------------------------------------------------------------------

/-- A token that is not refused adds its segment, if it holds a character: the last segment is no
catch-all as long as another token is accepted.
-/
theorem appendToken_of_not_refused {before : List String} {token : String}
    (free : ¬ Refused before token)
    : appendToken ⟨(before.filter (· ≠ "")).map classify⟩ token
      = .ok ⟨((before ++ [token]).filter (· ≠ "")).map classify⟩ := by
  unfold appendToken
  by_cases empty : token = ""
  · simp [empty]
  · rw [if_neg empty, bind_eq_ok_iff]
    simp only [Refused, empty, ne_eq, not_false_eq_true, true_and, not_or, not_exists, not_and]
      at free
    refine ⟨classify token, Segment.parse_eq_ok_iff.mpr ⟨empty, free.1, rfl⟩, ?_⟩
    refine append_eq_ok_iff.mpr ⟨?_, by simp [empty]⟩
    intro last isLast catching
    obtain ⟨other, member, rfl⟩ := List.mem_map.mp (List.mem_of_getLast? isLast)
    have written := (Segment.isCatchAll_classify_iff other).mp catching
    exact absurd written (free.2 other (List.mem_filter.mp member).1)

/-- Accepted tokens make the page of their segments, by induction on the tokens. -/
theorem ofTokens_of_accepted {tokens : List String} (accepted : Accepted tokens)
    : ofTokens tokens = .ok ⟨(tokens.filter (· ≠ "")).map classify⟩ := by
  induction tokens using List.reverseRecOn with
  | nil => rfl
  | append_singleton before token ih =>
      obtain ⟨earlier, free⟩ := accepted_append_singleton_iff.mp accepted
      rw [ofTokens_append_singleton, ih earlier]
      exact appendToken_of_not_refused free

/-- A token that is refused behind accepted ones gives its error: a catch-all among them is the last
one that holds a character, so the page is closed.
-/
theorem appendToken_of_refused {before : List String} {token : String}
    (accepted : Accepted before) (refused : Refused before token)
    : appendToken ⟨(before.filter (· ≠ "")).map classify⟩ token
      = .error (refusal before token) := by
  obtain ⟨nonempty, cause⟩ := refused
  unfold appendToken refusal
  rw [if_neg nonempty]
  by_cases slash : '/' ∈ token.toList
  · simp [Segment.parse, nonempty, slash, bind, Except.bind]
  · rw [if_neg slash]
    obtain ⟨earlier, member, catching⟩ := cause.resolve_left slash
    have last := accepted.getLast?_eq_some member catching
    have closed : isClosed ⟨(before.filter (· ≠ "")).map classify⟩ = true :=
      isClosed_eq_true_iff.mpr
        ⟨classify earlier, by rw [List.getLast?_map, last]; rfl,
          (Segment.isCatchAll_classify_iff earlier).mpr catching⟩
    have read : Segment.parse token = .ok (classify token) :=
      Segment.parse_eq_ok_iff.mpr ⟨nonempty, slash, rfl⟩
    rw [read]
    exact append_eq_error_iff.mpr ⟨closed, Segment.isMarker_classify token, rfl⟩

/-- A run of tokens ends with the error of the first refused one, whatever comes after it. -/
theorem ofTokens_of_refused {before : List String} {token : String} (accepted : Accepted before)
    (refused : Refused before token) (after : List String)
    : ofTokens (before ++ token :: after) = .error (refusal before token) := by
  have built := ofTokens_of_accepted accepted
  unfold ofTokens at built ⊢
  rw [List.foldlM_append, built]
  simp only [bind, Except.bind, List.foldlM_cons, appendToken_of_refused accepted refused]

/-- Tokens make a page exactly if they are accepted, and it is that of the tokens that are not
empty.
-/
theorem ofTokens_eq_ok_iff {tokens : List String} {p : Page}
    : ofTokens tokens = .ok p
      ↔ Accepted tokens ∧ p = ⟨(tokens.filter (· ≠ "")).map classify⟩ := by
  constructor
  · intro built
    rcases accepted_or_refused tokens with accepted | ⟨before, token, after, rfl, accepted, refused⟩
    · rw [ofTokens_of_accepted accepted] at built
      exact ⟨accepted, (Except.ok.inj built).symm⟩
    · simp [ofTokens_of_refused accepted refused] at built
  · intro whole
    rw [whole.2]
    exact ofTokens_of_accepted whole.1

/-- Tokens make no page exactly if one of them is refused, and the first such token is the reason.
-/
theorem ofTokens_eq_error_iff {tokens : List String} {e : SegmentError}
    : ofTokens tokens = .error e
      ↔ ∃ before token after,
          tokens = before ++ token :: after
          ∧ Accepted before
          ∧ Refused before token
          ∧ e = refusal before token := by
  constructor
  · intro failed
    rcases accepted_or_refused tokens with accepted | ⟨before, token, after, rfl, accepted, refused⟩
    · simp [ofTokens_of_accepted accepted] at failed
    · rw [ofTokens_of_refused accepted refused] at failed
      exact ⟨before, token, after, rfl, accepted, refused, (Except.error.inj failed).symm⟩
  · intro first
    obtain ⟨before, token, after, rfl, accepted, refused, rfl⟩ := first
    exact ofTokens_of_refused accepted refused after

/-- A marker is never refused, by cases on the marker. -/
theorem appendMarker_eq (p : Page) (marker : Option Marker)
    : p.appendMarker marker = .ok ⟨p.segments ++ marker.toList.map .marker⟩ := by
  cases marker <;> simp [appendMarker, append, Segment.isMarker]

end DirectoryRoutes.Page
