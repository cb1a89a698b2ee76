import DirectoryRoutes.Proofs.CommandLine.ShownTexts
import DirectoryRoutes.Proofs.Page.MarkedPages

/-! Runs that show the route of a path. Settings come first, so a run that succeeds has loaded them
and shows the page of its path with the marker that they choose.
-/

namespace DirectoryRoutes.CommandLine

variable {machine : Machine} {fs : FileSystem} {workingDirectory : Place} {request : ParseRequest}

/-- The marker that a run is asked for: that of the settings that are loaded, unless the arguments
choose another.
-/
def AsksForMarker (machine : Machine) (fs : FileSystem) (workingDirectory : Place)
    (request : ParseRequest) (marker : Option Marker)
    : Prop :=
  ∃ loaded config,
    Config.load machine.nestingRoom fs workingDirectory (request.config.map PathName.ofText)
      = .ok loaded
    ∧ loaded.override { pageType := request.pageType } = .ok config
    ∧ config.marker = marker

/-- A run without settings fails, whatever the reason is. -/
theorem exitCode_loadFailure (e : LoadError) : (loadFailure e).exitCode = 1 := by
  unfold loadFailure
  split <;> rfl

/-- A run shows the page of its path with the marker that it is asked for, or why there is none. -/
theorem AsksForMarker.runParse_eq {marker : Option Marker}
    (asks : AsksForMarker machine fs workingDirectory request marker)
    : runParse machine fs workingDirectory request
      = match requestedPage request.path marker with
        | .error e => failure (shown request.verbose e.events) e.message
        | .ok page => { output := printed machine request.json page } := by
  obtain ⟨loaded, config, load, override, rfl⟩ := asks
  unfold runParse withSettings
  rw [load]
  cases requested : requestedPage request.path config.marker <;> simp only [override, requested]

/-- A run that succeeds prints a page, by cases on its settings and on the path. -/
theorem exists_page_of_runParse
    (success : (runParse machine fs workingDirectory request).exitCode = 0)
    : ∃ marker page,
        AsksForMarker machine fs workingDirectory request marker
        ∧ requestedPage request.path marker = .ok page
        ∧ (runParse machine fs workingDirectory request).output
          = printed machine request.json page := by
  -- Each check of a run that ends with another code than zero is passed.
  cases load : Config.load machine.nestingRoom fs workingDirectory
      (request.config.map PathName.ofText) with
  | error e => simp [runParse, withSettings, load, exitCode_loadFailure] at success
  | ok loaded =>
      cases override : loaded.override { pageType := request.pageType } with
      | error e => simp [runParse, withSettings, load, override] at success
      | ok config =>
          have asks : AsksForMarker machine fs workingDirectory request config.marker :=
            ⟨loaded, config, load, override, rfl⟩
          rw [asks.runParse_eq] at success ⊢
          cases requested : requestedPage request.path config.marker with
          | error e => simp [requested, failure] at success
          | ok page => exact ⟨config.marker, page, asks, requested, rfl⟩

end DirectoryRoutes.CommandLine
