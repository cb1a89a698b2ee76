import DirectoryRoutes.Api.Routes
import DirectoryRoutes.Proofs.Page.TokenRuns
import DirectoryRoutes.Proofs.Segment.Records

/-! Requests for a route. What a document asks for is stated field by field, and a request is
answered by the first of its checks that fails, or else with the page of its tokens.
-/

namespace DirectoryRoutes

namespace Api

open Segment (CatchAllToken classify)

-----------------------------------------------------------------------------------------
-- What a document asks for
-----------------------------------------------------------------------------------------

def IsObject (body : Data) : Prop :=
  ∃ fields, body = .record fields

/-- The document names tokens: its segments are a list of texts. -/
def NamesTokens (body : Data) (tokens : List String) : Prop :=
  body.field? "segments" = some (.list (tokens.map .text))

/-- The document chooses a marker or none: the default if it says nothing, and none if it says null.
-/
inductive Chooses (fallback : Option Marker) (body : Data) : Option Marker → Prop where
  | silent (missing : body.field? "type" = none) : Chooses fallback body fallback
  | null (given : body.field? "type" = some .null) : Chooses fallback body none
  | word (kind : Marker) (given : body.field? "type" = some (.text kind.word))
    : Chooses fallback body (some kind)

/-- The value is neither null nor the word of a marker. -/
def ChoosesNothing (type : Data) : Prop :=
  type ≠ .null ∧ ∀ kind : Marker, type ≠ .text kind.word

/-- The items of a list are texts if and only if the list is one of texts, by induction on the
items.
-/
theorem texts?_eq_some_iff {items : List Data} {tokens : List String}
    : texts? items = some tokens ↔ items = tokens.map .text := by
  induction items generalizing tokens with
  | nil => cases tokens <;> simp [texts?]
  | cons item rest ih => cases item <;> cases tokens <;> simp [texts?, ih, and_comm]

/-- A document chooses a marker or none, or it says something else. -/
theorem chooses_or_choosesNothing (fallback : Option Marker) (body : Data)
    : (∃ marker, Chooses fallback body marker)
      ∨ ∃ type, body.field? "type" = some type ∧ ChoosesNothing type := by
  cases found : body.field? "type" with
  | none => exact Or.inl ⟨fallback, .silent found⟩
  | some type =>
      by_cases null : type = .null
      · subst null
        exact Or.inl ⟨none, .null found⟩
      · by_cases known : ∃ kind : Marker, type = .text kind.word
        · obtain ⟨kind, rfl⟩ := known
          exact Or.inl ⟨some kind, .word kind found⟩
        · exact Or.inr ⟨type, rfl, null, not_exists.mp known⟩

/-- A document chooses a marker or none exactly if it says nothing, null or one of two words. -/
theorem exists_chooses_iff {fallback : Option Marker} {body : Data}
    : (∃ marker, Chooses fallback body marker)
      ↔ body.field? "type" = none
        ∨ body.field? "type" = some .null
        ∨ body.field? "type" = some (.text "page")
        ∨ body.field? "type" = some (.text "route") := by
  constructor
  · intro choosing
    obtain ⟨marker, chosen⟩ := choosing
    cases chosen with
    | silent missing => exact Or.inl missing
    | null given => exact Or.inr (Or.inl given)
    | word kind given =>
        cases kind with
        | page => exact Or.inr (Or.inr (Or.inl given))
        | route => exact Or.inr (Or.inr (Or.inr given))
  · intro said
    rcases said with missing | given | given | given
    · exact ⟨fallback, .silent missing⟩
    · exact ⟨none, .null given⟩
    · exact ⟨some .page, .word .page given⟩
    · exact ⟨some .route, .word .route given⟩

-----------------------------------------------------------------------------------------
-- How a document is read
-----------------------------------------------------------------------------------------

/-- The tokens that a document names are read. -/
theorem readTokens_of_named {body : Data} {tokens : List String} (named : NamesTokens body tokens)
    : readTokens body = .ok tokens := by
  unfold readTokens
  rw [show body.field? "segments" = some (.list (tokens.map .text)) from named]
  simp only [texts?_eq_some_iff.mpr rfl]

/-- A document that names no tokens is refused for its segments, by cases on what it has there. -/
theorem readTokens_of_unnamed {body : Data} (unnamed : ∀ tokens, ¬ NamesTokens body tokens)
    : readTokens body = .error .segmentsNotTexts := by
  unfold readTokens
  split
  · rename_i items found
    split
    · rename_i tokens texts
      have named : NamesTokens body tokens := by
        rw [NamesTokens, found, texts?_eq_some_iff.mp texts]
      exact absurd named (unnamed tokens)
    · rfl
  · rfl

/-- The marker that a document chooses is read. A default passes the check for what is said. -/
theorem readMarker_of_chooses {fallback : Option Marker} {body : Data} {marker : Option Marker}
    (chosen : Chooses fallback body marker)
    : readMarker fallback body = .ok marker := by
  unfold readMarker
  cases chosen with
  | silent missing =>
      rw [missing]
      cases fallback with
      | none => rfl
      | some kind => simp [choice, Marker.ofWord?_eq_some_iff.mpr rfl]
  | null given =>
      rw [given]
      rfl
  | word kind given => simp [given, Marker.ofWord?_eq_some_iff.mpr rfl]

/-- A value that is neither null nor a word is refused, by cases on the value. -/
theorem readMarker_of_choosesNothing {fallback : Option Marker} {body : Data} {type : Data}
    (given : body.field? "type" = some type) (unknown : ChoosesNothing type)
    : readMarker fallback body = .error (.unknownMarker type) := by
  obtain ⟨notNull, notWord⟩ := unknown
  unfold readMarker
  rw [given, Option.getD_some]
  split
  · exact absurd rfl notNull
  · rename_i word
    split
    · rename_i kind known
      exact absurd (congrArg _ (Marker.ofWord?_eq_some_iff.mp known)) (notWord kind)
    · rfl
  · rfl

/-- A document that names tokens and chooses a marker is read. -/
theorem readRequest_of_chooses {fallback : Option Marker} {body : Data} {tokens : List String}
    {marker : Option Marker} (object : IsObject body) (named : NamesTokens body tokens)
    (chosen : Chooses fallback body marker)
    : readRequest fallback body = .ok (tokens, marker) := by
  obtain ⟨fields, rfl⟩ := object
  unfold readRequest
  simp only [readTokens_of_named named, readMarker_of_chooses chosen, bind, Except.bind, pure,
    Except.pure]

-----------------------------------------------------------------------------------------
-- How a request is answered
-----------------------------------------------------------------------------------------

/-- The reply to a document, by the first check that it fails: to be an object, to name tokens, to
choose a marker or none, and to have its tokens accepted one after another.
-/
inductive Answers (fallback : Option Marker) (body : Data) : Reply → Prop where
  | notObject (other : ¬ IsObject body) : Answers fallback body (reject .notObject)
  | unnamed (object : IsObject body) (unnamed : ∀ tokens, ¬ NamesTokens body tokens)
    : Answers fallback body (reject .segmentsNotTexts)
  | unknown {tokens : List String} {type : Data} (object : IsObject body)
      (named : NamesTokens body tokens) (given : body.field? "type" = some type)
      (unknown : ChoosesNothing type)
    : Answers fallback body (reject (.unknownMarker type))
  | refused {before after : List String} {token : String} {marker : Option Marker}
      (object : IsObject body) (named : NamesTokens body (before ++ token :: after))
      (chosen : Chooses fallback body marker) (accepted : Page.Accepted before)
      (refused : Page.Refused before token)
    : Answers fallback body
        (refuse (Page.refusal before token)
          (.tokensRefused (before ++ token :: after) (Page.refusal before token)))
  | found {tokens : List String} {marker : Option Marker} {segments : List Segment}
      (object : IsObject body) (named : NamesTokens body tokens)
      (chosen : Chooses fallback body marker) (accepted : Page.Accepted tokens)
      (read : (tokens.filter (· ≠ "")).mapM Segment.parse = .ok segments)
    : Answers fallback body ⟨200, describe ⟨segments ++ marker.toList.map .marker⟩, []⟩

/-- Every document has an answer: the checks are made one after another. -/
theorem exists_answers (fallback : Option Marker) (body : Data)
    : ∃ reply, Answers fallback body reply := by
  by_cases object : IsObject body
  · by_cases named : ∃ tokens, NamesTokens body tokens
    · obtain ⟨tokens, named⟩ := named
      rcases chooses_or_choosesNothing fallback body with ⟨marker, chosen⟩ | ⟨type, given, unknown⟩
      · rcases Page.accepted_or_refused tokens with accepted | ⟨before, token, after, rfl, first⟩
        · exact ⟨_, .found object named chosen accepted (Page.Accepted.mapM_parse accepted)⟩
        · exact ⟨_, .refused object named chosen first.1 first.2⟩
      · exact ⟨_, .unknown object named given unknown⟩
    · exact ⟨_, .unnamed object (not_exists.mp named)⟩
  · exact ⟨_, .notObject object⟩

/-- The reply by the checks is the one that is given, by cases on the check that fails first. -/
theorem buildRoute_of_answers {fallback : Option Marker} {body : Data} {reply : Reply}
    (answers : Answers fallback body reply)
    : buildRoute fallback body = reply := by
  unfold buildRoute
  cases answers with
  | notObject other =>
      have failed : readRequest fallback body = .error .notObject := by
        unfold readRequest
        split
        · rename_i fields
          exact absurd ⟨fields, rfl⟩ other
        · rfl
      rw [failed]
  | unnamed object unnamed =>
      obtain ⟨fields, rfl⟩ := object
      simp only [readRequest, readTokens_of_unnamed unnamed, bind, Except.bind]
  | unknown object named given unknown =>
      obtain ⟨fields, rfl⟩ := object
      simp only [readRequest, readTokens_of_named named,
        readMarker_of_choosesNothing given unknown, bind, Except.bind]
  | refused object named chosen accepted refused =>
      rw [readRequest_of_chooses object named chosen]
      simp only [Page.ofTokens_of_refused accepted refused, bind, Except.bind]
  | found object named chosen accepted read =>
      obtain rfl := Except.ok.inj (accepted.mapM_parse.symm.trans read)
      rw [readRequest_of_chooses object named chosen]
      simp only [Page.ofTokens_of_accepted accepted, Page.appendMarker_eq, bind, Except.bind]

/-- A document is answered by the first check that it fails, and with the page of its tokens and its
marker if it fails none. Exactly those that fail none succeed; all others are bad requests.
-/
theorem buildRoute_exact (fallback : Option Marker) (body : Data)
    : (∀ reply, buildRoute fallback body = reply ↔ Answers fallback body reply)
      ∧ ((buildRoute fallback body).status = 200
          ↔ IsObject body
            ∧ ∃ tokens,
                NamesTokens body tokens
                ∧ (body.field? "type" = none
                  ∨ body.field? "type" = some .null
                  ∨ body.field? "type" = some (.text "page")
                  ∨ body.field? "type" = some (.text "route"))
                ∧ (∀ token ∈ tokens, '/' ∉ token.toList)
                ∧ ∀ token ∈ (tokens.filter (· ≠ "")).dropLast, ¬ CatchAllToken token)
      ∧ ((buildRoute fallback body).status = 200 ∨ (buildRoute fallback body).status = 400)
      ∧ (∀ before token after marker,
          IsObject body
          → NamesTokens body (before ++ token :: after)
          → Chooses fallback body marker
          → Page.Accepted before
          → Page.Refused before token
          → (buildRoute fallback body).body.field? "kind"
            = some (.text (if '/' ∈ token.toList then "illegal_slash" else "invalid_append")))
      ∧ (buildRoute fallback body).body.field? "kind" ≠ some (.text "empty_segment") := by
  obtain ⟨reply, answers⟩ := exists_answers fallback body
  have built : buildRoute fallback body = reply := buildRoute_of_answers answers
  refine ⟨?_, ?_, ?_, ?_, ?_⟩
  · intro other
    constructor
    · intro same
      rwa [← same, built]
    · exact buildRoute_of_answers
  · constructor
    · intro success
      rw [built] at success
      cases answers with
      | found object named chosen accepted read =>
          obtain ⟨plain, free⟩ := Page.accepted_iff.mp accepted
          exact ⟨object, _, named, exists_chooses_iff.mp ⟨_, chosen⟩, plain, free⟩
      | _ => simp [reject, refuse] at success
    · intro conditions
      obtain ⟨object, tokens, named, said, plain, free⟩ := conditions
      obtain ⟨marker, chosen⟩ := exists_chooses_iff.mpr said
      have accepted : Page.Accepted tokens := Page.accepted_iff.mpr ⟨plain, free⟩
      rw [buildRoute_of_answers (.found object named chosen accepted accepted.mapM_parse)]
  · rw [built]
    cases answers <;> simp [reject, refuse]
  · intro before token after marker object named chosen accepted refused
    rw [buildRoute_of_answers (.refused object named chosen accepted refused)]
    simp [refuse, Data.field?, Table.get?, Page.kind_refusal]
  · rw [built]
    cases answers with
    | refused object named chosen accepted refused =>
        simp only [refuse, Data.field?, Table.get?, Page.kind_refusal]
        grind
    | _ => simp [reject, describe, Data.field?, Table.get?]

-----------------------------------------------------------------------------------------
-- The two ways to ask
-----------------------------------------------------------------------------------------

/-- The document that names the components of a path and says nothing about a marker. -/
def componentsRequest (path : String) : Data :=
  .record [("segments", .list ((Text.components path).map .text))]

/-- A path and its components are answered alike, whatever the default is: the tokens are put
together in the same order, and the default passes its check.
-/
theorem parseRoute_agrees_buildRoute (fallback : Option Marker) (path : String)
    : (parseRoute fallback path).status
        = (buildRoute fallback (componentsRequest path)).status
      ∧ (parseRoute fallback path).body
        = (buildRoute fallback (componentsRequest path)).body := by
  have object : IsObject (componentsRequest path) := ⟨_, rfl⟩
  have named : NamesTokens (componentsRequest path) (Text.components path) := rfl
  have silent : Chooses fallback (componentsRequest path) fallback := .silent rfl
  unfold parseRoute buildRoute Page.parse
  rw [readRequest_of_chooses object named silent]
  cases built : Page.ofTokens (Text.components path) >>= (·.appendMarker fallback) with
  | ok page => simp [built]
  | error reason => simp [built, refuse]

end Api

end DirectoryRoutes
