import DirectoryRoutes.Proofs.CommandLine.ReadRequests
import DirectoryRoutes.Proofs.CommandLine.ShownRoutes
import DirectoryRoutes.Proofs.Config.EffectiveSettings
import DirectoryRoutes.Proofs.Config.SelectedDocuments

/-! How runs that are asked for a route end. The document comes first, whatever the arguments
choose, and the path comes last; only a document that is none, or is nested too deeply, ends a run
without a word.
-/

namespace DirectoryRoutes

namespace CommandLine

open Config (Selects TooDeep Invalid Unsearchable)

-----------------------------------------------------------------------------------------
-- Documents that end a run
-----------------------------------------------------------------------------------------

variable {fs : FileSystem} {workingDirectory : Place}

/-- No document can be looked for, or the place that is selected holds no file, or one that is
nested too deeply to be read.
-/
def SelectsUnreadable (room : Nat) (fs : FileSystem) (workingDirectory : Place)
    (config : Option String)
    : Prop :=
  Unsearchable workingDirectory config
  ∨ ∃ place,
      Selects fs workingDirectory config place
      ∧ ((∀ octets, fs.entry? place ≠ some (.file octets))
        ∨ ∃ octets, fs.entry? place = some (.file octets) ∧ TooDeep room octets)

/-- The file that is selected is no text, no document, or has a section that is no settings. -/
def SelectsInvalid (room : Nat) (fs : FileSystem) (workingDirectory : Place)
    (config : Option String)
    : Prop :=
  ∃ place octets,
    Selects fs workingDirectory config place
    ∧ fs.entry? place = some (.file octets)
    ∧ Invalid room octets

/-- A failure with a description is said to be an invalid configuration. -/
theorem loadFailure_of_described {e : LoadError} (described : e.Described)
    : loadFailure e = failure [] ("invalid configuration: " ++ e.message) := by
  unfold loadFailure
  split
  · exact absurd described id
  · exact absurd described id
  · exact absurd described id
  · exact absurd rfl described
  · rfl

section

variable {room : Nat} {config : Option String} {place : Place} {octets : List UInt8}

/-- Where a file is selected, only its depth can make it unreadable. -/
theorem selectsUnreadable_iff (searchable : ¬ Unsearchable workingDirectory config)
    (selected : Selects fs workingDirectory config place)
    (entry : fs.entry? place = some (.file octets))
    : SelectsUnreadable room fs workingDirectory config ↔ TooDeep room octets := by
  constructor
  · rintro (unsearchable | ⟨place', selected', noFile | ⟨octets', entry', deep⟩⟩)
    · exact absurd unsearchable searchable
    · rw [← selected.unique selected'] at noFile
      exact absurd entry (noFile octets)
    · rw [← selected.unique selected', entry] at entry'
      cases entry'
      exact deep
  · intro deep
    exact Or.inr ⟨place, selected, Or.inr ⟨octets, entry, deep⟩⟩

/-- Where a file is selected, it is invalid by its octets. -/
theorem selectsInvalid_iff (selected : Selects fs workingDirectory config place)
    (entry : fs.entry? place = some (.file octets))
    : SelectsInvalid room fs workingDirectory config ↔ Invalid room octets := by
  constructor
  · rintro ⟨place', octets', selected', entry', invalid⟩
    rw [← selected.unique selected', entry] at entry'
    cases entry'
    exact invalid
  · intro invalid
    exact ⟨place, octets, selected, entry, invalid⟩

/-- Settings are loaded unless the document that is selected cannot be read or is invalid. -/
theorem load_settings_cases (room : Nat)
    (named : ∀ text ∈ config, fs.names workingDirectory text = true)
    : let loading := Config.load room fs workingDirectory (config.map PathName.ofText)
      (SelectsUnreadable room fs workingDirectory config
        ∧ ∃ e, loading = .error e ∧ loadFailure e = { exitCode := 1, crash := some (.load e) })
      ∨ (¬ SelectsUnreadable room fs workingDirectory config
        ∧ SelectsInvalid room fs workingDirectory config
        ∧ ∃ e,
            loading = .error e
            ∧ loadFailure e = failure [] ("invalid configuration: " ++ e.message))
      ∨ (¬ SelectsUnreadable room fs workingDirectory config
        ∧ ¬ SelectsInvalid room fs workingDirectory config
        ∧ ∃ loaded, loading = .ok loaded) := by
  intro loading
  rcases Config.load_cases room named with ⟨unsearchable, loads⟩
    | ⟨searchable, place, source, selected, loads⟩ | ⟨searchable, none, loads⟩
  · exact Or.inl ⟨Or.inl unsearchable, _, loads, rfl⟩
  · have loaded : loading = Config.ofPlace room fs source place := loads
    by_cases holds : ∃ octets, fs.entry? place = some (.file octets)
    · obtain ⟨octets, entry⟩ := holds
      have fromOctets : loading = Config.ofOctets room source octets := by
        simp only [loaded, Config.ofPlace, entry]
      rw [selectsUnreadable_iff searchable selected entry, selectsInvalid_iff selected entry,
        fromOctets]
      rcases Config.ofOctets_cases room source octets with
        ⟨deep, _, left, lines, failed⟩ | ⟨shallow, invalid, e, failed, described⟩ | settings
      · exact Or.inl ⟨deep, _, failed, rfl⟩
      · exact Or.inr (Or.inl ⟨shallow, invalid, e, failed, loadFailure_of_described described⟩)
      · exact Or.inr (Or.inr settings)
    · rw [not_exists] at holds
      refine Or.inl ⟨Or.inr ⟨place, selected, Or.inl holds⟩, .isDirectory, ?_, rfl⟩
      rw [loaded, Config.ofPlace]
      split
      · exact absurd ‹_› (holds _)
      · rfl
  · refine Or.inr (Or.inr ⟨?_, ?_, _, loads⟩)
    · rintro (unsearchable | ⟨place, selected, _⟩)
      · exact searchable unsearchable
      · exact none place selected
    · rintro ⟨place, _, selected, _⟩
      exact none place selected

end

-----------------------------------------------------------------------------------------
-- Runs
-----------------------------------------------------------------------------------------

/-- How a run ends that is asked for a route. The first reason why it fails decides. -/
inductive Ends (room : Nat) (fs : FileSystem) (workingDirectory : Place) (request : ParseRequest)
    (outcome : Outcome)
    : Prop where
  | unreadable {crash : Crash}
      (unreadable : SelectsUnreadable room fs workingDirectory request.config)
      (ends : outcome = { exitCode := 1, crash := some crash })
  | invalid {reason : String}
      (readable : ¬ SelectsUnreadable room fs workingDirectory request.config)
      (invalid : SelectsInvalid room fs workingDirectory request.config)
      (ends : outcome = failure [] ("invalid configuration: " ++ reason))
  | refused {e : SegmentError}
      (readable : ¬ SelectsUnreadable room fs workingDirectory request.config)
      (valid : ¬ SelectsInvalid room fs workingDirectory request.config)
      (refused : Page.parse request.path = .error e)
      (ends : outcome = failure (shown request.verbose e.events) e.message)
  | found {p : Page} {output : String}
      (readable : ¬ SelectsUnreadable room fs workingDirectory request.config)
      (valid : ¬ SelectsInvalid room fs workingDirectory request.config)
      (parsed : Page.parse request.path = .ok p)
      (ends : outcome = { output })

/-- A run that is asked for a route ends in one of the four ways, by cases on its settings and then
on the path.
-/
theorem runParse_ends {machine : Machine} {request : ParseRequest}
    (listed : ∀ word ∈ request.pageType, word ∈ pageTypeChoices)
    (named : ∀ text ∈ request.config, fs.names workingDirectory text = true)
    : Ends machine.nestingRoom fs workingDirectory request
        (runParse machine fs workingDirectory request) := by
  rcases load_settings_cases machine.nestingRoom named with ⟨unreadable, e, loads, ends⟩
    | ⟨readable, invalid, e, loads, ends⟩ | ⟨readable, valid, loaded, loads⟩
  · exact .unreadable unreadable (by rw [runParse, withSettings, loads]; exact ends)
  · exact .invalid readable invalid (by rw [runParse, withSettings, loads]; exact ends)
  · obtain ⟨config, overridden⟩ := loaded.exists_override { pageType := request.pageType } listed
    have asks : AsksForMarker machine fs workingDirectory request config.marker :=
      ⟨loaded, config, loads, overridden, rfl⟩
    cases parsed : Page.parse request.path with
    | error e =>
        have requested : requestedPage request.path config.marker = .error e := by
          rw [requestedPage, parsed]
          rfl
        exact .refused readable valid parsed (by rw [asks.runParse_eq, requested])
    | ok p =>
        have requested : requestedPage request.path config.marker
            = .ok ⟨p.segments ++ config.marker.toList.map .marker⟩ := by
          rw [requestedPage, parsed]
          exact Page.appendMarker_eq p config.marker
        exact .found readable valid parsed (by rw [asks.runParse_eq, requested])

/-- Failures that are the same say the same. -/
theorem failure_inj {before before' : List Notice} {message message' : String}
    (same : failure before message = failure before' message')
    : message = message' := by
  simp only [failure, Outcome.mk.injEq] at same
  obtain ⟨_, last⟩ := List.append_inj' same.2.2.1 (by simp)
  simpa [← String.toList_inj] using last

/-- What is said of a path is never said of settings. -/
theorem message_ne_of_parse {path : String} {e : SegmentError}
    (refused : Page.parse path = .error e) (reason : String)
    : e.message ≠ "invalid configuration: " ++ reason := by
  obtain ⟨before, catcher, next, after, split, free, catching, rfl⟩ := Page.parse_eq_error refused
  intro same
  have worded : ("Invalid segment " ++ (Segment.classify next).render
      ++ ", catch all segment must be the last segment").toList
      = ("invalid configuration: " ++ reason).toList :=
    congrArg String.toList same
  simp at worded

namespace Ends

variable {room : Nat} {request : ParseRequest} {outcome : Outcome}

/-- A run ends without a word exactly if nothing can be read, by cases on its end. -/
theorem crash_iff (ends : Ends room fs workingDirectory request outcome)
    : outcome.crash.isSome = true ↔ SelectsUnreadable room fs workingDirectory request.config := by
  cases ends with
  | unreadable unreadable ends => simp [ends, unreadable]
  | invalid readable _ ends => simp [ends, failure, readable]
  | refused readable _ _ ends => simp [ends, failure, readable]
  | found readable _ _ ends => simp [ends, readable]

/-- A run ends for an invalid document exactly if one is selected that can be read, by cases on its
end.
-/
theorem invalid_iff (ends : Ends room fs workingDirectory request outcome)
    : (∃ reason, outcome = failure [] ("invalid configuration: " ++ reason))
      ↔ ¬ SelectsUnreadable room fs workingDirectory request.config
        ∧ SelectsInvalid room fs workingDirectory request.config := by
  cases ends with
  | unreadable unreadable ends => simp [ends, failure, unreadable]
  | invalid readable invalid ends =>
      simp only [readable, invalid, not_false_eq_true, and_self, iff_true]
      exact ⟨_, ends⟩
  | refused _ valid refused ends =>
      simp only [valid, and_false, iff_false, not_exists]
      intro reason same
      exact message_ne_of_parse refused reason (failure_inj (ends.symm.trans same))
  | found _ valid _ ends => simp [ends, failure, valid]

/-- A run ends for its path exactly if the settings are valid and there is no page, by cases on its
end.
-/
theorem refused_iff (ends : Ends room fs workingDirectory request outcome)
    : (∃ e,
        Page.parse request.path = .error e
        ∧ outcome = failure (shown request.verbose e.events) e.message)
      ↔ ¬ SelectsUnreadable room fs workingDirectory request.config
        ∧ ¬ SelectsInvalid room fs workingDirectory request.config
        ∧ ∃ e, Page.parse request.path = .error e := by
  cases ends with
  | unreadable unreadable ends => simp [ends, failure, unreadable]
  | invalid _ invalid ends =>
      simp only [invalid, not_true_eq_false, false_and, and_false, iff_false, not_exists, not_and]
      intro e refused same
      exact message_ne_of_parse refused _ (failure_inj (same.symm.trans ends))
  | refused readable valid refused ends =>
      simp only [readable, valid, not_false_eq_true, true_and]
      exact ⟨fun _ => ⟨_, refused⟩, fun _ => ⟨_, refused, ends⟩⟩
  | found _ _ parsed ends => simp [parsed]

/-- A run succeeds exactly if the settings are valid and there is a page, by cases on its end. -/
theorem exitCode_iff (ends : Ends room fs workingDirectory request outcome)
    : outcome.exitCode = 0
      ↔ ¬ SelectsUnreadable room fs workingDirectory request.config
        ∧ ¬ SelectsInvalid room fs workingDirectory request.config
        ∧ ∃ p, Page.parse request.path = .ok p := by
  cases ends with
  | unreadable unreadable ends => simp [ends, unreadable]
  | invalid _ invalid ends => simp [ends, failure, invalid]
  | refused _ _ refused ends => simp [ends, failure, refused]
  | found readable valid parsed ends => simp [ends, readable, valid, parsed]

/-- A run that fails prints nothing but what is for diagnosis. -/
theorem output_of_failure (ends : Ends room fs workingDirectory request outcome)
    : outcome.exitCode = 0 ∨ outcome.exitCode = 1 ∧ outcome.output = "" := by
  cases ends with
  | unreadable _ ends => exact Or.inr (by simp [ends])
  | invalid _ _ ends => exact Or.inr (by simp [ends, failure])
  | refused _ _ _ ends => exact Or.inr (by simp [ends, failure])
  | found _ _ _ ends => exact Or.inl (by simp [ends])

end Ends

/-- A run that is asked for a route ends without a word if and only if no document can be looked
for, or the place of its document holds no file, or one that is nested too deeply. Otherwise it ends
for an invalid document, whatever the arguments choose; otherwise for the path, if there is no page
for it. Nothing is printed then, and replacing the marker never fails.
-/
theorem run_parse_exact {machine : Machine} {arguments : List String} {request : ParseRequest}
    (asked : readInvocation (fs.names workingDirectory) arguments = .ok (.parse request))
    : let outcome := run machine fs workingDirectory arguments
      let unreadable := SelectsUnreadable machine.nestingRoom fs workingDirectory request.config
      let invalid := SelectsInvalid machine.nestingRoom fs workingDirectory request.config
      (outcome.crash.isSome = true ↔ unreadable)
      ∧ ((∃ reason, outcome = failure [] ("invalid configuration: " ++ reason))
        ↔ ¬ unreadable ∧ invalid)
      ∧ ((∃ e,
            Page.parse request.path = .error e
            ∧ outcome = failure (shown request.verbose e.events) e.message)
        ↔ ¬ unreadable ∧ ¬ invalid ∧ ∃ e, Page.parse request.path = .error e)
      ∧ (outcome.exitCode = 0 ↔ ¬ unreadable ∧ ¬ invalid ∧ ∃ p, Page.parse request.path = .ok p)
      ∧ (outcome.exitCode = 0 ∨ outcome.exitCode = 1 ∧ outcome.output = "")
      ∧ (∀ loaded : Config, ∃ c, loaded.override { pageType := request.pageType } = .ok c)
      ∧ (fs.Rooted
          → ∀ place,
              Selects fs workingDirectory request.config place
              → (fs.isDirectory place = true
                ↔ ∀ octets, fs.entry? place ≠ some (.file octets))) := by
  intro outcome unreadable invalid
  obtain ⟨listed, named⟩ := of_readInvocation asked
  have ran : outcome = runParse machine fs workingDirectory request := by
    simp only [outcome, run, asked]
  have ends : Ends machine.nestingRoom fs workingDirectory request outcome :=
    ran ▸ runParse_ends listed named
  refine ⟨ends.crash_iff, ends.invalid_iff, ends.refused_iff, ends.exitCode_iff,
    ends.output_of_failure, ?_, ?_⟩
  · intro loaded
    exact loaded.exists_override { pageType := request.pageType } listed
  · intro rooted place selected
    exact selected.isDirectory_iff rooted

/-- An invalid document is the reason even where the marker is chosen and there is no page. -/
theorem invalid_before_refused
    : let machine := Machine.verbatim 970
      let fs := FileSystem.ofLists [(["approute.toml"], [0xff])] [[]]
      ∃ reason,
        run machine fs [] ["parse", "--type", "route", "/[...a]/b"]
        = failure [] ("invalid configuration: " ++ reason) := by
  intro machine fs
  have asked : readInvocation (fs.names []) ["parse", "--type", "route", "/[...a]/b"]
      = .ok (.parse { path := "/[...a]/b", pageType := some "route" }) := by
    cbv
  have fits : Place.isOverlong [configName] = false := by decide
  have searchable : ¬ Unsearchable [] none := by simp [Unsearchable, fits]
  have selected : Selects fs [] none ["approute.toml"] :=
    (Config.discover_eq_some_iff fits).mp rfl
  have entry : fs.entry? ["approute.toml"] = some (.file [0xff]) := by decide
  have unencoded := Text.Utf8.exists_decode_eq_error_iff.mp
    ⟨⟨.startOctet, 0, 0xff, 1⟩, (rfl : Text.Utf8.decode [0xff] = _)⟩
  refine (run_parse_exact asked).2.1.mpr ⟨?_, ?_⟩
  · rw [selectsUnreadable_iff searchable selected entry]
    rintro ⟨text, _, _, encoded, _⟩
    exact unencoded text encoded
  · exact (selectsInvalid_iff selected entry).mpr (.notText unencoded)

/-- A document with six hundred arrays inside one another. -/
def nestedDocument : List Char :=
  'x' :: '=' :: (List.replicate 600 '[' ++ List.replicate 600 ']')

/-- A run ends without a word although a file is selected. -/
theorem crash_of_nestedDocument
    : let machine := Machine.verbatim 970
      let fs := FileSystem.ofLists [(["approute.toml"], Text.Utf8.encode nestedDocument)] [[]]
      Config.discover fs [] = .ok (some ["approute.toml"])
      ∧ fs.entry? ["approute.toml"] = some (.file (Text.Utf8.encode nestedDocument))
      ∧ fs.isDirectory ["approute.toml"] = false
      ∧ (run machine fs [] ["parse", "/a"]).crash.isSome = true := by
  refine ⟨rfl, by decide +kernel, by decide +kernel, by decide +kernel⟩

end CommandLine

end DirectoryRoutes
