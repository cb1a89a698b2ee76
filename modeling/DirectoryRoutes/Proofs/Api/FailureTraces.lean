import DirectoryRoutes.Api.Log
import DirectoryRoutes.Proofs.Api.RouteRequests
import DirectoryRoutes.Proofs.Page.CanonicalPaths

/-! What requests leave in the log. The work that writes the log comes to the reply and adds the
events of the reply, of which there are none unless a token is refused. They then show that token,
what stands before it, and the reason that the reply gives.
-/

namespace DirectoryRoutes

-----------------------------------------------------------------------------------------
-- Replies to both ways to ask
-----------------------------------------------------------------------------------------

namespace Api

/-- The reply with the page that was built, or else with the reason why there is none. -/
def Reply.ofBuilt (built : Except SegmentError Page) (failed : SegmentError → Event) : Reply :=
  match built with
  | .ok page => ⟨200, describe page, []⟩
  | .error reason => refuse reason (failed reason)

/-- A path is answered by what its components build. -/
theorem parseRoute_eq_ofBuilt (fallback : Option Marker) (path : String)
    : parseRoute fallback path
      = .ofBuilt (Page.ofTokens (Text.components path) >>= (·.appendMarker fallback))
          (.pathRefused path) :=
  rfl

/-- A document that asks for a route is answered by what its tokens build. -/
theorem buildRoute_eq_ofBuilt {fallback marker : Option Marker} {body : Data}
    {tokens : List String} (asked : readRequest fallback body = .ok (tokens, marker))
    : buildRoute fallback body
      = .ofBuilt (Page.ofTokens tokens >>= (·.appendMarker marker)) (.tokensRefused tokens) := by
  unfold buildRoute
  rw [asked]
  rfl

end Api

namespace Log

-----------------------------------------------------------------------------------------
-- What work writes
-----------------------------------------------------------------------------------------

/-- The work comes to the result, and it writes the events of its failure if it fails. -/
def Writes {α : Type} (work : Work α) (result : Except SegmentError α) : Prop :=
  ∀ log,
    work.run log
      = match result with
        | .ok a => .ok a log
        | .error e => .error e (log ++ e.events)

variable {α β : Type}

/-- Work that does nothing writes nothing. -/
theorem writes_pure (a : α) : Writes (pure a) (.ok a) := by
  intro log
  rfl

/-- Works go on from one to the next, by cases on the first: the events of both stand in order. -/
theorem Writes.bind {work : Work α} {result : Except SegmentError α} {next : α → Work β}
    {rest : α → Except SegmentError β} (writes : Writes work result)
    (goesOn : ∀ a, Writes (next a) (rest a))
    : Writes (work >>= next) (result >>= rest) := by
  intro log
  rw [EStateM.run_bind, writes log]
  cases result with
  | ok a => exact goesOn a log
  | error e => rfl

/-- Items are worked through up to the first failure, by induction on the items. -/
theorem writes_foldlM {step : β → α → Work β} {step' : β → α → Except SegmentError β}
    (each : ∀ b a, Writes (step b a) (step' b a)) (items : List α) (b : β)
    : Writes (items.foldlM step b) (items.foldlM step' b) := by
  induction items generalizing b with
  | nil => exact writes_pure b
  | cons a items ih => exact (each b a).bind ih

-----------------------------------------------------------------------------------------
-- What a page writes
-----------------------------------------------------------------------------------------

/-- A segment that is refused is reported before the failure. -/
theorem writes_append (p : Page) (s : Segment) : Writes (append p s) (p.append s) := by
  intro log
  unfold append Page.append
  split <;> rfl

/-- A token that is read or refused leaves no line of its own. -/
theorem writes_parse (token : String)
    : Writes (MonadExcept.ofExcept (Segment.parse token)) (Segment.parse token) := by
  intro log
  cases read : Segment.parse token with
  | ok s => rfl
  | error e =>
      have silent : e.events = [] := by
        unfold Segment.parse at read
        grind [SegmentError.events]
      simp only [silent, List.append_nil]
      rfl

/-- An added token writes what its segment does, and an empty one nothing. -/
theorem writes_appendToken (p : Page) (token : String)
    : Writes (appendToken p token) (p.appendToken token) := by
  unfold appendToken Page.appendToken
  split
  · exact writes_pure p
  · exact (writes_parse token).bind (writes_append p)

/-- A marker is never refused, so it writes nothing. -/
theorem writes_appendMarker (p : Page) (marker : Option Marker)
    : Writes (appendMarker p marker) (p.appendMarker marker) := by
  cases marker with
  | none => exact writes_pure p
  | some kind => exact writes_append p (.marker kind)

/-- Tokens write the events of the first of them that is refused. -/
theorem writes_build (tokens : List String) (marker : Option Marker)
    : Writes (build tokens marker) (Page.ofTokens tokens >>= (·.appendMarker marker)) :=
  (writes_foldlM writes_appendToken tokens .empty).bind fun p => writes_appendMarker p marker

-----------------------------------------------------------------------------------------
-- What a request writes
-----------------------------------------------------------------------------------------

/-- The work does not fail: it ends with the reply and writes its events. -/
def Replies (work : Work Outcome) (reply : Api.Reply) : Prop :=
  ∀ log, work.run log = .ok (reply.status, reply.body) (log ++ reply.events)

/-- An answer ends without a failure, by cases on the page: the failure to build it is reported
behind what it has written itself.
-/
theorem run_answer (page : Work Page) (failed : SegmentError → Event) (log : List Event)
    : (answer page failed).run log
      = match page.run log with
        | .ok p after => .ok (200, Api.describe p) after
        | .error reason after =>
            .ok
              (400, .record [("error", .text reason.message), ("kind", .text reason.kind)])
              (after ++ [failed reason]) := by
  simp only [answer, EStateM.run, tryCatch, tryCatchThe, MonadExceptOf.tryCatch, EStateM.tryCatch,
    bind, EStateM.bind]
  cases page log <;> rfl

/-- An answer is the reply with what was built. -/
theorem replies_answer {page : Work Page} {built : Except SegmentError Page}
    (writes : Writes page built) (failed : SegmentError → Event)
    : Replies (answer page failed) (.ofBuilt built failed) := by
  intro log
  rw [run_answer, writes log]
  cases built with
  | ok p => simp [Api.Reply.ofBuilt]
  | error reason => simp [Api.Reply.ofBuilt, Api.refuse]

/-- A path is answered with its reply. -/
theorem replies_parseRoute (fallback : Option Marker) (path : String)
    : Replies (parseRoute fallback path) (Api.parseRoute fallback path) := by
  rw [Api.parseRoute_eq_ofBuilt]
  exact replies_answer (writes_build (Text.components path) fallback) (.pathRefused path)

/-- A document is answered with its reply, by cases on what it asks for. -/
theorem replies_buildRoute (fallback : Option Marker) (body : Data)
    : Replies (buildRoute fallback body) (Api.buildRoute fallback body) := by
  cases asked : Api.readRequest fallback body with
  | error reason =>
      intro log
      simp only [buildRoute, Api.buildRoute, asked, Api.reject, List.append_nil]
      rfl
  | ok asking =>
      obtain ⟨tokens, marker⟩ := asking
      rw [Api.buildRoute_eq_ofBuilt asked]
      simp only [buildRoute, asked]
      exact replies_answer (writes_build tokens marker) (.tokensRefused tokens)

end Log

namespace Api

open Segment (CatchAllToken)

-----------------------------------------------------------------------------------------
-- What a failure leaves in the log
-----------------------------------------------------------------------------------------

/-- A request for a route: by its path, or by a document that names its tokens. -/
inductive Inquiry where
  | byPath (path : String)
  | byTokens (body : Data)

namespace Inquiry

def reply (fallback : Option Marker) : Inquiry → Reply
  | byPath path => parseRoute fallback path
  | byTokens body => buildRoute fallback body

def work (fallback : Option Marker) : Inquiry → Log.Work Log.Outcome
  | byPath path => Log.parseRoute fallback path
  | byTokens body => Log.buildRoute fallback body

/-- The tokens that are asked for; there are none if a document does not name them. -/
def tokens : Inquiry → List String
  | byPath path => Text.components path
  | byTokens body => (readTokens body).toOption.getD []

/-- The line that says that the request was refused and why. -/
def refusalLine (inquiry : Inquiry) (why : String) : LogLine where
  level := "DEBUG"
  source := "approute.api.routes"
  message :=
    match inquiry with
    | byPath path => "Failed to parse route " ++ Text.quote path ++ ": " ++ why
    | byTokens body =>
        "Failed to build route from " ++ (body.fieldOrNull "segments").literal ++ ": " ++ why

/-- Both requests are answered with their replies. -/
theorem work_replies (fallback : Option Marker) (inquiry : Inquiry)
    : Log.Replies (inquiry.work fallback) (inquiry.reply fallback) := by
  cases inquiry with
  | byPath path => exact Log.replies_parseRoute fallback path
  | byTokens body => exact Log.replies_buildRoute fallback body

/-- A request is answered without a word in the log, or it is refused with the first of its tokens
that is refused.
-/
theorem silent_or_refused (fallback : Option Marker) (inquiry : Inquiry)
    : (inquiry.reply fallback).events = []
        ∧ (inquiry.reply fallback).body.field? "kind" = none
      ∨ ∃ before token after event,
          inquiry.tokens = before ++ token :: after
          ∧ Page.Accepted before
          ∧ Page.Refused before token
          ∧ event.line = inquiry.refusalLine (Page.refusal before token).message
          ∧ inquiry.reply fallback = refuse (Page.refusal before token) event := by
  cases inquiry with
  | byPath path =>
      rw [reply, parseRoute_eq_ofBuilt]
      rcases Page.accepted_or_refused (Text.components path) with
        accepted | ⟨before, token, after, split, accepted, refused⟩
      · simp only [Page.ofTokens_of_accepted accepted, Page.appendMarker_eq, bind, Except.bind]
        exact Or.inl ⟨rfl, rfl⟩
      · refine Or.inr ⟨before, token, after, .pathRefused path (Page.refusal before token), split,
          accepted, refused, rfl, ?_⟩
        rw [split, Page.ofTokens_of_refused accepted refused]
        rfl
  | byTokens body =>
      obtain ⟨given, answers⟩ := exists_answers fallback body
      rw [reply, buildRoute_of_answers answers]
      cases answers with
      | @refused before after token marker object named chosen accepted refused =>
          have given : body.field? "segments" = some (.list ((before ++ token :: after).map .text)) :=
            named
          refine Or.inr ⟨before, token, after, _, ?_, accepted, refused, ?_, rfl⟩
          · simp only [tokens, readTokens_of_named named]
            rfl
          · simp only [refusalLine, Data.fieldOrNull, given, Option.getD_some]
            rfl
      | _ => exact Or.inl ⟨rfl, rfl⟩

/-- A request does not fail on the way to its reply, and what it adds to the log is nothing unless
the reply is a bad request of a kind. A token with a separator leaves the line of the request alone;
a token behind a catch-all first leaves a line that shows its segment and the text of the page so
far, which goes up to the catch-all. The line of the request gives the reason that the reply gives.
-/
theorem trace_exact (fallback : Option Marker) (inquiry : Inquiry) (log : List Event)
    : let reply := inquiry.reply fallback
      (inquiry.work fallback).run log = .ok (reply.status, reply.body) (log ++ reply.events)
      ∧ (reply.events = [] ∧ reply.body.field? "kind" = none
        ∨ ∃ why,
            reply.status = 400
            ∧ reply.body.field? "error" = some (.text why)
            ∧ (reply.body.field? "kind" = some (.text "illegal_slash")
                ∧ reply.events.map Event.line = [inquiry.refusalLine why]
              ∨ reply.body.field? "kind" = some (.text "invalid_append")
                ∧ ∃ before catcher next after s,
                    inquiry.tokens.filter (· ≠ "") = before ++ catcher :: next :: after
                    ∧ (∀ token ∈ before, ¬ Segment.ReadAsCatchAll token)
                    ∧ Segment.ReadAsCatchAll catcher
                    ∧ Segment.parse next = .ok s
                    ∧ reply.events.map Event.line
                      = [⟨"DEBUG", "approute.core.page",
                            "Rejected " ++ s.literal ++ " after catch-all in "
                              ++ Text.rooted (before ++ [catcher])⟩,
                         inquiry.refusalLine why])) := by
  refine ⟨inquiry.work_replies fallback log, ?_⟩
  refine (inquiry.silent_or_refused fallback).imp_right ?_
  rintro ⟨before, next, after, event, split, accepted, refused, line, answered⟩
  rw [answered]
  refine ⟨_, rfl, rfl, ?_⟩
  rw [← line]
  by_cases slash : '/' ∈ next.toList
  · have reason : Page.refusal before next = .illegalSlash next := if_pos slash
    rw [reason]
    exact Or.inl ⟨rfl, rfl⟩
  · obtain ⟨front, catcher, shape, free, catching, reason⟩ :=
      Page.exists_catcher_of_refused accepted refused slash
    have written : ∀ token ∈ front ++ [catcher],
        (Segment.ReadAsCatchAll token ↔ CatchAllToken token) := by
      intro token member
      rw [← shape] at member
      exact Segment.readAsCatchAll_iff
        ((Page.accepted_iff.mp accepted).1 token (List.mem_filter.mp member).1)
    refine Or.inr ⟨by rw [reason]; rfl, front, catcher, next, after.filter (· ≠ ""),
      Segment.classify next, ?_, ?_, ?_, ?_, ?_⟩
    · rw [split, List.filter_append, shape, List.filter_cons_of_pos (by simpa using refused.1)]
      simp
    · intro token member
      exact (not_congr (written token (by simp [member]))).mpr (free token member)
    · exact (written catcher (by simp)).mpr catching
    · exact Segment.parse_eq_ok_iff.mpr ⟨refused.1, slash, rfl⟩
    · rw [reason, ← Page.render_map_classify]
      rfl

example
    : ((byPath "/(a)//[...x]//b/c").reply none).events.map Event.message
      = ["Rejected Static(name='b') after catch-all in /(a)/[...x]",
         "Failed to parse route '/(a)//[...x]//b/c': "
           ++ "Invalid segment b, catch all segment must be the last segment"] := by
  decide +kernel

end Inquiry

end Api

end DirectoryRoutes
