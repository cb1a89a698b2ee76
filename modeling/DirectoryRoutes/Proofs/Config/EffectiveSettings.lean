import DirectoryRoutes.Data.Comparison
import DirectoryRoutes.Proofs.Config.DocumentSettings
import DirectoryRoutes.Proofs.Config.SelectedDocuments
import DirectoryRoutes.Proofs.Toml.GivenValues

/-! Settings in effect: those of a document, with overrides in their place. A document is checked as
a whole before anything is replaced, so no override hides a fault of it.
-/

namespace DirectoryRoutes

-----------------------------------------------------------------------------------------
-- Overrides
-----------------------------------------------------------------------------------------

/-- No two choices have the same word, since a word is read as its choice. -/
theorem pageTypeWord_injective : Function.Injective pageTypeWord := by
  intro marker marker' same
  have chosen := readPageType_eq_ok_iff.mpr same
  rw [readPageType_eq_ok_iff.mpr rfl] at chosen
  exact Except.ok.inj chosen

namespace Config

/-- Each setting is replaced on its own, and the path of the document stays. -/
theorem override_eq_ok_iff {c c' : Config} {o : Overrides}
    : c.override o = .ok c'
      ↔ c'.server.host = o.host.getD c.server.host
        ∧ c'.server.port = o.port.getD c.server.port
        ∧ pageTypeWord c'.marker = o.pageType.getD (pageTypeWord c.marker)
        ∧ c'.source = c.source := by
  rcases c' with ⟨⟨host, port⟩, marker, source⟩
  have replaced (marker' : Option Marker)
      : (⟨⟨o.host.getD c.server.host, o.port.getD c.server.port⟩, marker', c.source⟩ : Config)
          = ⟨⟨host, port⟩, marker, source⟩
        ↔ host = o.host.getD c.server.host
          ∧ port = o.port.getD c.server.port
          ∧ marker = marker'
          ∧ source = c.source := by
    simp only [mk.injEq, ServerSettings.mk.injEq, and_assoc, eq_comm]
  unfold override
  cases o.pageType with
  | none =>
      simp only [pure, Except.pure, bind, Except.bind, Except.ok.injEq, replaced, Option.getD_none,
        pageTypeWord_injective.eq_iff]
  | some word =>
      simp only [bind_eq_ok_iff, readPageType_eq_ok_iff, pure, Except.pure, Except.ok.injEq,
        replaced, Option.getD_some]
      constructor
      · rintro ⟨marker', rfl, sameHost, samePort, rfl, sameSource⟩
        exact ⟨sameHost, samePort, rfl, sameSource⟩
      · rintro ⟨sameHost, samePort, rfl, sameSource⟩
        exact ⟨marker, rfl, sameHost, samePort, rfl, sameSource⟩

/-- Overrides succeed if the marker is chosen by one of the words. -/
theorem exists_override (c : Config) (o : Overrides)
    (listed : ∀ word ∈ o.pageType, word ∈ pageTypeChoices)
    : ∃ c', c.override o = .ok c' := by
  cases chosen : o.pageType with
  | none => simp [override, chosen, bind, Except.bind, pure, Except.pure]
  | some word =>
      obtain ⟨marker, read⟩ := exists_readPageType_iff.mpr (listed word chosen)
      simp [override, chosen, read, bind, Except.bind, pure, Except.pure]

-----------------------------------------------------------------------------------------
-- Settings of a document with overrides
-----------------------------------------------------------------------------------------

/-- Loads settings and puts overrides in their place. -/
def loadWith (room : Nat) (fs : FileSystem) (workingDirectory : Place) (path : Option PathName)
    (o : Overrides)
    : Except LoadError Config := do
  let loaded ← load room fs workingDirectory path
  (loaded.override o).mapError .setting

/-- The document that is loaded for a given path or for none, and the text under which its place is
recorded.
-/
inductive Loads (room : Nat) (fs : FileSystem) (workingDirectory : Place)
    : Option PathName → String → Data → Prop where
  | given {path : PathName} {place : Place} {text : List Char} {document : Data}
      (located : fs.locate workingDirectory path = .ok place)
      (holds : fs.entry? place = some (.file (Text.Utf8.encode text)))
      (read : Toml.read room text = .ok document)
    : Loads room fs workingDirectory (some path) path.text document
  | nearest {place : Place} {text : List Char} {document : Data}
      (found : discover fs workingDirectory = .ok (some place))
      (holds : fs.entry? place = some (.file (Text.Utf8.encode text)))
      (read : Toml.read room text = .ok document)
    : Loads room fs workingDirectory none place.text document

section

variable {room : Nat} {fs : FileSystem} {workingDirectory : Place} {path : Option PathName}
variable {source : String} {document : Data}

/-- A file that holds a document has the settings of the document. -/
theorem ofPlace_of_read {place : Place} {text : List Char}
    (holds : fs.entry? place = some (.file (Text.Utf8.encode text)))
    (read : Toml.read room text = .ok document)
    : ofPlace room fs source place = (ofDocument source document).mapError .setting := by
  simp only [ofPlace, holds, ofOctets_encode, read]

/-- The settings that are loaded are those of the document, by cases on the way it is selected. -/
theorem Loads.load_eq (loads : Loads room fs workingDirectory path source document)
    : load room fs workingDirectory path = (ofDocument source document).mapError .setting := by
  cases loads with
  | given located holds read => simp only [load, located, ofPlace_of_read holds read]
  | nearest found holds read => simp only [load, found, ofPlace_of_read holds read]

/-- No name of a document that is loaded stands for null. -/
theorem Loads.field?_ne_null (loads : Loads room fs workingDirectory path source document)
    (name : String)
    : document.field? name ≠ some .null := by
  cases loads with
  | given _ _ read | nearest _ _ read => exact (Toml.exists_fields_of_read read).2 name

/-- Overrides take effect only on a document without faults. -/
theorem Loads.loadWith_eq_ok_iff (loads : Loads room fs workingDirectory path source document)
    {o : Overrides} {c : Config}
    : loadWith room fs workingDirectory path o = .ok c
      ↔ ∃ loaded, ofDocument source document = .ok loaded ∧ loaded.override o = .ok c := by
  rw [loadWith, loads.load_eq]
  simp only [bind_eq_ok_iff, mapError_eq_ok_iff]

/-- Overrides of listed words fail only for the first fault of the document. -/
theorem Loads.loadWith_eq_error_iff (loads : Loads room fs workingDirectory path source document)
    {o : Overrides} (listed : ∀ word ∈ o.pageType, word ∈ pageTypeChoices) {e : LoadError}
    : loadWith room fs workingDirectory path o = .error e
      ↔ ∃ reason, firstFault? document = some reason ∧ e = .setting reason := by
  have faulty (reason : SettingError)
      : ofDocument source document = .error reason ↔ firstFault? document = some reason :=
    ofDocument_eq_error_iff loads.field?_ne_null
  simp only [← faulty]
  rw [loadWith, loads.load_eq]
  cases read : ofDocument source document with
  | error reason => simp [Except.mapError, bind, Except.bind, eq_comm]
  | ok loaded =>
      obtain ⟨c, replaced⟩ := loaded.exists_override o listed
      simp [Except.mapError, bind, Except.bind, replaced]

/-- The place that is recorded has no effect on the settings. -/
theorem Loads.loadWith_eq_map (loads : Loads room fs workingDirectory path source document)
    {room' : Nat} {fs' : FileSystem} {workingDirectory' : Place} {path' : Option PathName}
    {source' : String} {document' : Data}
    (loads' : Loads room' fs' workingDirectory' path' source' document')
    (same : SaySame document document') (o : Overrides)
    : loadWith room' fs' workingDirectory' path' o
      = (loadWith room fs workingDirectory path o).map fun c =>
          { c with source := some source' } := by
  have moved : ofDocument source' document
      = (ofDocument source document).map fun c => { c with source := some source' } := by
    unfold ofDocument
    cases readServer (document.fieldOrNull "server") with
    | error reason => rfl
    | ok server => cases readRoutes (document.fieldOrNull "routes") <;> rfl
  have replaced (c : Config)
      : override { c with source := some source' } o
        = (c.override o).map fun c => { c with source := some source' } := by
    unfold override
    cases o.pageType with
    | none => rfl
    | some word =>
        cases chosen : readPageType word <;>
          simp [chosen, bind, Except.bind, Except.map, pure, Except.pure]
  rw [loadWith, loadWith, loads.load_eq, loads'.load_eq, ← same.ofDocument_eq, moved]
  cases ofDocument source document with
  | error reason => rfl
  | ok loaded =>
      simp only [Except.map, Except.mapError, bind, Except.bind, replaced]
      cases loaded.override o <;> rfl

/-- Settings are in effect exactly if the document that is loaded is sound. Each is then what
replaces it, or else what the document says, or else its default, and the place of the document is
recorded. The first fault of the document is the reason for a failure whatever is replaced, and keys
that are not known have no effect.
-/
theorem loadWith_exact (loads : Loads room fs workingDirectory path source document) {o : Overrides}
    (listed : ∀ word ∈ o.pageType, word ∈ pageTypeChoices)
    : let settings := loadWith room fs workingDirectory path o
      ((∃ c, settings = .ok c) ↔ Sound document)
      ∧ (∀ c,
          settings = .ok c
          → Takes .text "127.0.0.1" o.host (document.setting? "server" "host") c.server.host
            ∧ Takes .int 8080 o.port (document.setting? "server" "port") c.server.port
            ∧ Takes .text "page" o.pageType (document.setting? "routes" "default_page_type")
                (pageTypeWord c.marker)
            ∧ c.source = some source)
      ∧ (∀ e,
          settings = .error e
          ↔ ∃ reason, firstFault? document = some reason ∧ e = .setting reason)
      ∧ ∀ room' fs' workingDirectory' path' source' document',
          Loads room' fs' workingDirectory' path' source' document'
          → SaySame document document'
          → loadWith room' fs' workingDirectory' path' o
            = settings.map fun c => { c with source := some source' } := by
  intro settings
  have filled := loads.field?_ne_null
  have failed (e : LoadError)
      : settings = .error e ↔ ∃ reason, firstFault? document = some reason ∧ e = .setting reason :=
    loads.loadWith_eq_error_iff listed
  refine ⟨?_, ?_, failed, ?_⟩
  · rw [sound_iff]
    cases result : settings with
    | ok c =>
        have faultless : firstFault? document = none := by
          refine Option.eq_none_iff_forall_ne_some.mpr fun reason fault => ?_
          simp [(failed _).mpr ⟨reason, fault, rfl⟩] at result
        simp [faultless]
    | error e =>
        obtain ⟨reason, fault, _⟩ := (failed e).mp result
        simp [fault]
  · intro c effective
    obtain ⟨loaded, read, replaced⟩ := loads.loadWith_eq_ok_iff.mp effective
    obtain ⟨_, _, host, port, word, recorded⟩ := (ofDocument_eq_ok_iff filled).mp read
    obtain ⟨sameHost, samePort, sameWord, sameSource⟩ := override_eq_ok_iff.mp replaced
    rw [sameHost, samePort, sameWord, sameSource]
    exact ⟨host.replace o.host, port.replace o.port, word.replace o.pageType, recorded⟩
  · intro room' fs' workingDirectory' path' source' document' loads' same
    exact loads.loadWith_eq_map loads' same o

end

/-- Overrides beside a port of zero, the choice of no marker and a key that is not known, and the
same overrides with a fault that they do not hide.
-/
theorem loadWith_over_document
    : let room := 970
      let fs := fun (text : String) =>
        FileSystem.ofLists [(["approute.toml"], Text.Utf8.encode text.toList)] []
      let o : Overrides := { host := some "", pageType := some "route" }
      let text := "[server]\nport = 0\nlog = true\n[routes]\ndefault_page_type = \"none\"\n"
      let faulty := "[routes]\ndefault_page_type = 1\n"
      (∃ c,
        loadWith room (fs text) [] none o = .ok c
        ∧ c.server.host = ""
        ∧ c.server.port = 0
        ∧ c.marker = some .route
        ∧ c.source = some "/approute.toml")
      ∧ loadWith room (fs faulty) [] none o = .error (.setting .pageTypeNotText) := by
  intro room fs o text faulty
  have found (written : String) : discover (fs written) [] = .ok (some ["approute.toml"]) := by rfl
  have listed : ∀ word ∈ o.pageType, word ∈ pageTypeChoices := by decide
  -- Values with floats among them are not decidably equal, so what is read is observed instead.
  let said (d : Data) := (firstFault? d, (d.setting? "server" "port").bind Data.whole?)
  have read : (Toml.read room text.toList >>= fun d => .ok (said d)) = .ok (none, some 0) := by
    decide +kernel
  have readFaulty : (Toml.read room faulty.toList >>= fun d => .ok (said d))
      = .ok (some .pageTypeNotText, none) := by
    decide +kernel
  obtain ⟨document, read, facts⟩ := bind_eq_ok_iff.mp read
  obtain ⟨document', readFaulty, factsFaulty⟩ := bind_eq_ok_iff.mp readFaulty
  simp only [said, Except.ok.injEq, Prod.mk.injEq] at facts factsFaulty
  obtain ⟨effective, settings, _⟩ := loadWith_exact (.nearest (found text) (by rfl) read) listed
  obtain ⟨_, _, fault, _⟩ := loadWith_exact (.nearest (found faulty) (by rfl) readFaulty) listed
  refine ⟨?_, (fault _).mpr ⟨.pageTypeNotText, factsFaulty.1, rfl⟩⟩
  obtain ⟨c, loaded⟩ := effective.mpr (sound_iff.mpr facts.1)
  obtain ⟨host, port, word, recorded⟩ := settings c loaded
  obtain ⟨given, setting, whole⟩ := Option.bind_eq_some_iff.mp facts.2
  have sameHost : c.server.host = "" := takes_replaced_iff.mp host
  have samePort : given = .int c.server.port := takes_given_iff.mp (setting ▸ port)
  have sameWord : pageTypeWord c.marker = pageTypeWord (some .route) := takes_replaced_iff.mp word
  subst samePort
  exact ⟨c, loaded, sameHost, Option.some.inj whole, pageTypeWord_injective sameWord, recorded⟩

end Config

end DirectoryRoutes
