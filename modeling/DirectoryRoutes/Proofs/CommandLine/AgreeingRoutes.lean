import DirectoryRoutes.Api.Routes
import DirectoryRoutes.Proofs.CommandLine.ShownRoutes
import DirectoryRoutes.Proofs.Page.UrlPaths

/-! The command line and requests agree: a run that is asked for a route shows what a request for
the same path is answered, where the marker of the run is the default marker of the server. Texts
are shown as the machine shows them: as they are, unless the path holds an escape character.
-/

namespace DirectoryRoutes

-----------------------------------------------------------------------------------------
-- Texts that come from a path
-----------------------------------------------------------------------------------------

/-- A path has the escape characters of its names. -/
theorem unescaped_of_mem_names {path name : String} (unescaped : Unescaped path)
    (member : name ∈ Text.names path)
    : Unescaped name := by
  intro escape
  exact unescaped (Text.mem_of_mem_components (List.mem_filter.mp member).1 escape).1

/-- Names without escape characters make up a path without them, by induction on the names. -/
theorem unescaped_rooted {names : List String} (each : ∀ name ∈ names, Unescaped name)
    : Unescaped (Text.rooted names) := by
  have separator : Unescaped "/" := by decide
  have joined : Unescaped (String.join (names.map fun name => "/" ++ name)) := by
    induction names with
    | nil => decide
    | cons name names ih =>
        obtain ⟨first, others⟩ := List.forall_mem_cons.mp each
        rw [List.map_cons, String.join_cons, unescaped_append_iff, unescaped_append_iff]
        exact ⟨⟨separator, first⟩, ih others⟩
  unfold Text.rooted
  split
  · exact separator
  · exact joined

namespace Page

variable {path : String} {marker : Option Marker}

/-- No escape character comes into the text of a page that is not in its path. -/
theorem unescaped_render {p : Page} (unescaped : Unescaped path)
    (built : parse path >>= (·.appendMarker marker) = .ok p)
    : Unescaped p.render := by
  rw [eq_ofNames_of_parse built, render_ofNames]
  apply unescaped_rooted
  intro name member
  rcases List.mem_append.mp member with given | word
  · exact unescaped_of_mem_names unescaped given
  · obtain ⟨kind, _, rfl⟩ := List.mem_map.mp word
    cases kind <;> decide

/-- No escape character comes into the text of a URL path that is not in the path of its page. -/
theorem unescaped_render_urlPath {p : Page} (unescaped : Unescaped path)
    (built : parse path >>= (·.appendMarker marker) = .ok p)
    : Unescaped p.urlPath.render := by
  rw [render_urlPath_of_parse built]
  exact unescaped_rooted fun name member =>
    unescaped_of_mem_names unescaped (List.mem_filter.mp member).1

/-- No escape character comes into the reason why there is no page that is not in the path. -/
theorem unescaped_message {e : SegmentError} (unescaped : Unescaped path)
    (failed : parse path >>= (·.appendMarker marker) = .error e)
    : Unescaped e.message := by
  have refused : parse path = .error e := by
    rcases bind_eq_error_iff.mp failed with refused | ⟨p, _, unmarked⟩
    · exact refused
    · rw [appendMarker_eq] at unmarked
      cases unmarked
  obtain ⟨before, catcher, next, after, split, _, _, rfl⟩ := parse_eq_error refused
  have given : next ∈ Text.names path := by simp [split]
  have worded : (SegmentError.invalidAppend (Segment.classify next)
      ((before ++ [catcher]).map Segment.classify)).message
      = "Invalid segment " ++ (Segment.classify next).render
        ++ ", catch all segment must be the last segment" := rfl
  rw [worded, Segment.render_classify]
  simp only [unescaped_append_iff]
  exact ⟨⟨by decide, unescaped_of_mem_names unescaped given⟩, by decide⟩

end Page

namespace CommandLine

/-- What is printed for diagnosis. -/
def Outcome.diagnosis (machine : Machine) (time : String) (o : Outcome) : String :=
  String.join (o.notices.map (·.render machine time))

/-- Behind two dashes every text is a path. -/
theorem readInvocation_of_path (present : String → Bool) (path : String)
    : readInvocation present ["parse", "--", path] = .ok (.parse { path }) := by
  rfl

/-- A run without a request for diagnosis succeeds if and only if a request for the same path does,
where its marker is the default. It shows the page, the path and the segments of the reply as a
document, or the page and the path as texts, or nothing but the error of the reply. A document is
always shown as it is written; the texts and the error are, unless the path holds an escape
character.
-/
theorem run_agrees_parseRoute {machine : Machine} {fs : FileSystem} {workingDirectory : Place}
    {arguments : List String} {request : ParseRequest} {marker : Option Marker}
    (faithful : machine.Faithful)
    (asked : readInvocation (fs.names workingDirectory) arguments = .ok (.parse request))
    (quiet : request.verbose = false)
    (asks : AsksForMarker machine fs workingDirectory request marker)
    : let outcome := run machine fs workingDirectory arguments
      let reply := Api.parseRoute marker request.path
      (outcome.exitCode = 0 ↔ reply.status = 200)
      ∧ outcome.crash = none
      ∧ (reply.status = 200
          → ∃ page path segments,
              reply.body.field? "page" = some (.text page)
              ∧ reply.body.field? "path" = some (.text path)
              ∧ reply.body.field? "segments" = some segments
              ∧ outcome.notices = []
              ∧ (request.json = true
                  → outcome.output
                    = Json.write .indented
                        (.record
                          [("page", .text page), ("path", .text path), ("segments", segments)])
                      ++ "\n")
              ∧ (request.json = false
                  → outcome.output
                    = machine.output ("Page: " ++ page ++ "\n")
                      ++ machine.output ("Path: " ++ path ++ "\n"))
              ∧ (request.json = false
                  → Unescaped request.path
                  → outcome.output = "Page: " ++ page ++ "\nPath: " ++ path ++ "\n"))
      ∧ (reply.status ≠ 200
          → ∃ error,
              reply.status = 400
              ∧ reply.body.field? "error" = some (.text error)
              ∧ outcome.exitCode = 1
              ∧ outcome.output = ""
              ∧ ∀ time,
                  outcome.diagnosis machine time = machine.errors ("Error: " ++ error ++ "\n")
                  ∧ (Unescaped request.path
                      → outcome.diagnosis machine time = "Error: " ++ error ++ "\n")) := by
  intro outcome reply
  have ran : outcome = runParse machine fs workingDirectory request := by
    simp only [outcome, run, asked]
  rw [asks.runParse_eq] at ran
  cases requested : requestedPage request.path marker with
  | ok page =>
      simp only [requested] at ran
      have parsed : Page.parse request.path >>= (·.appendMarker marker) = .ok page := requested
      have replied : reply = ⟨200, Api.describe page, []⟩ := by
        simp only [reply, Api.parseRoute, parsed]
      refine ⟨by simp [ran, replied], by rw [ran], ?_, ?_⟩
      · intro _
        refine ⟨page.render, page.urlPath.render, .list (page.segments.map Segment.toData), ?_⟩
        have texts (json : request.json = false)
            : outcome.output
              = machine.output ("Page: " ++ page.render ++ "\n")
                ++ machine.output ("Path: " ++ page.urlPath.render ++ "\n") := by
          simp [ran, printed, json]
        refine ⟨by rw [replied]; rfl, by rw [replied]; rfl, by rw [replied]; rfl, by rw [ran], ?_,
          texts, ?_⟩
        · intro json
          rw [ran, printed, if_pos json, faithful.output_write]
          rfl
        · intro json unescaped
          have label : Unescaped "Page: " := by decide
          have label' : Unescaped "Path: " := by decide
          rw [texts json, faithful.output _ (label.line (Page.unescaped_render unescaped parsed)),
            faithful.output _ (label'.line (Page.unescaped_render_urlPath unescaped parsed))]
          simp [← String.toList_inj]
      · intro failed
        exact absurd (by rw [replied]) failed
  | error reason =>
      simp only [requested, quiet] at ran
      have parsed : Page.parse request.path >>= (·.appendMarker marker) = .error reason :=
        requested
      have replied : reply = Api.refuse reason (.pathRefused request.path reason) := by
        simp only [reply, Api.parseRoute, parsed]
      have status : reply.status = 400 := by rw [replied]; rfl
      have code : outcome.exitCode = 1 := by rw [ran]; rfl
      refine ⟨by simp [status, code], by rw [ran]; rfl, by simp [status], ?_⟩
      intro _
      refine ⟨reason.message, status, by rw [replied]; rfl, code, by rw [ran]; rfl, ?_⟩
      intro time
      have shown : outcome.diagnosis machine time
          = machine.errors ("Error: " ++ reason.message ++ "\n") := by
        rw [ran]
        simp [Outcome.diagnosis, failure, CommandLine.shown, Notice.render]
      refine ⟨shown, ?_⟩
      intro unescaped
      have label : Unescaped "Error: " := by decide
      rw [shown]
      exact faithful.errors _ (label.line (Page.unescaped_message unescaped parsed))

/-- A path that is shown, and one for which there is no route. -/
theorem shown_and_refused_alike
    : let machine := Machine.verbatim 970
      let fs := FileSystem.ofLists [] [[]]
      let found := run machine fs [] ["parse", "--", "/(shop)/[id]"]
      let refused := run machine fs [] ["parse", "--", "/[...a]/b"]
      found.exitCode = 0
      ∧ found.output = "Page: /(shop)/[id]/page\nPath: /[id]\n"
      ∧ refused.exitCode = 1
      ∧ refused.output = "" := by
  intro machine fs found refused
  have asks (path : String) : AsksForMarker machine fs [] { path } (some .page) :=
    ⟨{}, {}, rfl, rfl, rfl⟩
  have shown := run_agrees_parseRoute (.verbatim 970)
    (readInvocation_of_path (fs.names []) "/(shop)/[id]") rfl (asks "/(shop)/[id]")
  have unshown := run_agrees_parseRoute (.verbatim 970)
    (readInvocation_of_path (fs.names []) "/[...a]/b") rfl (asks "/[...a]/b")
  have success : (Api.parseRoute (some .page) "/(shop)/[id]").status = 200 := by decide
  have failure : (Api.parseRoute (some .page) "/[...a]/b").status ≠ 200 := by decide
  obtain ⟨page, path, _, samePage, samePath, _, _, _, _, texts⟩ := shown.2.2.1 success
  obtain ⟨_, _, _, code, nothing, _⟩ := unshown.2.2.2 failure
  refine ⟨shown.1.mpr success, ?_, code, nothing⟩
  cases samePage
  cases samePath
  exact texts rfl (by decide)

/-- The characters of a text without one sequence that terminals take for an instruction. -/
def withoutSequence : List Char → List Char
  | '\x1b' :: '[' :: '3' :: '1' :: '/' :: 'm' :: rest => withoutSequence rest
  | c :: rest => c :: withoutSequence rest
  | [] => []

/-- A machine whose streams do not show that sequence. -/
def Machine.muted : Machine where
  nestingRoom := 970
  output s := String.ofList (withoutSequence s.toList)
  errors s := String.ofList (withoutSequence s.toList)

/-- The machine shows all else as it is, by induction on the characters. -/
theorem Machine.Faithful.muted : Machine.muted.Faithful := by
  have same {cs : List Char} (unescaped : '\x1b' ∉ cs) : withoutSequence cs = cs := by
    fun_induction withoutSequence cs with
    | case1 => simp at unescaped
    | case2 c rest _ ih => rw [ih (fun escape => unescaped (.tail _ escape))]
    | case3 => rfl
  have shown (text : String) (unescaped : Unescaped text)
      : String.ofList (withoutSequence text.toList) = text := by
    rw [same unescaped, String.ofList_toList]
  exact ⟨shown, shown⟩

/-- A request is answered with a sequence that a run does not show. -/
theorem control_sequence_unprinted
    : let outcome := run .muted (.ofLists [] [[]]) [] ["parse", "/\x1b[31/mx"]
      let reply := Api.parseRoute (some .page) "/\x1b[31/mx"
      Machine.muted.Faithful
      ∧ outcome.exitCode = 0
      ∧ reply.status = 200
      ∧ reply.body.field? "page" = some (.text "/\x1b[31/mx/page")
      ∧ reply.body.field? "path" = some (.text "/\x1b[31/mx")
      ∧ outcome.output = "Page: /x/page\nPath: /x\n"
      ∧ outcome.output ≠ "Page: /\x1b[31/mx/page\nPath: /\x1b[31/mx\n" := by
  refine ⟨.muted, by decide +kernel, by decide +kernel, rfl, rfl, by decide +kernel,
    by decide +kernel⟩

end CommandLine

end DirectoryRoutes
