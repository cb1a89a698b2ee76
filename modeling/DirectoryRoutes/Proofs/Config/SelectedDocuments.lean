import DirectoryRoutes.Config.Load
import DirectoryRoutes.Proofs.FileSystem.NamedPlaces
import DirectoryRoutes.Proofs.Results
import DirectoryRoutes.Proofs.Text.Utf8Encoding

/-! Which document settings come from, and which documents hold settings. The place of a document is
the one that is named, or else the nearest one on the way up from the working directory.
-/

namespace DirectoryRoutes

-----------------------------------------------------------------------------------------
-- Places of documents
-----------------------------------------------------------------------------------------

/-- The place of the document from which settings come, given a path for it or none. -/
inductive Config.Selects (fs : FileSystem) (workingDirectory : Place)
    : Option String → Place → Prop where
  | given {text : String} {place : Place}
      (leads
        : fs.follow ((PathName.ofText text).start workingDirectory) (Text.components text)
          = .ok place)
      : Selects fs workingDirectory (some text) place
  | nearest {directory : Place} (above : directory <:+ workingDirectory)
      (present : fs.isPresent (configName :: directory) = true)
      (first
        : ∀ nearer,
            nearer <:+ workingDirectory
            → directory.length < nearer.length
            → fs.isPresent (configName :: nearer) = false)
      : Selects fs workingDirectory none (configName :: directory)

namespace Config

variable {fs : FileSystem} {workingDirectory place : Place}

/-- The search fails at once if the path of its first document is too long. -/
theorem discover_of_overlong (fs : FileSystem)
    (overlong : Place.isOverlong (configName :: workingDirectory) = true)
    : discover fs workingDirectory
      = .error (.overlongName (Place.text (configName :: workingDirectory))) := by
  rw [discover.eq_def]
  exact if_pos overlong

/-- A document in the directory itself is found. -/
theorem discover_of_present (fits : Place.isOverlong (configName :: workingDirectory) = false)
    (present : fs.isPresent (configName :: workingDirectory) = true)
    : discover fs workingDirectory = .ok (some (configName :: workingDirectory)) := by
  rw [discover.eq_def]
  simp only [fits, present, Bool.false_eq_true, if_false, if_true]

/-- Without a document at the root there is none. -/
theorem discover_root_of_absent (absent : fs.isPresent [configName] = false)
    : discover fs [] = .ok none := by
  have fits : Place.isOverlong [configName] = false := by decide
  rw [discover]
  simp only [fits, absent, Bool.false_eq_true, if_false]

/-- Without a document in the directory itself the search goes on above it. -/
theorem discover_cons_of_absent {name : String} {parent : Place}
    (fits : Place.isOverlong (configName :: name :: parent) = false)
    (absent : fs.isPresent (configName :: name :: parent) = false)
    : discover fs (name :: parent) = discover fs parent := by
  rw [discover]
  simp only [fits, absent, Bool.false_eq_true, if_false]

/-- Selection of the nearest document goes by the directory itself, or else by those above it. -/
theorem selects_none_iff
    : Selects fs workingDirectory none place
      ↔ if fs.isPresent (configName :: workingDirectory) then
          place = configName :: workingDirectory
        else
          ∃ name parent, workingDirectory = name :: parent ∧ Selects fs parent none place := by
  split
  · rename_i present
    constructor
    · rintro (_ | @⟨directory, above, _, first⟩)
      rcases Nat.lt_or_ge directory.length workingDirectory.length with farther | near
      · simp [first workingDirectory (List.suffix_refl _) farther] at present
      · rw [above.eq_of_length_le near]
    · rintro rfl
      refine .nearest (List.suffix_refl _) present ?_
      intro nearer on longer
      exact absurd on.length_le (Nat.not_le.mpr longer)
  · rename_i absent
    constructor
    · rintro (_ | @⟨directory, above, present, first⟩)
      cases workingDirectory with
      | nil =>
          rw [List.suffix_nil.mp above] at present
          exact absurd present absent
      | cons name parent =>
          rcases List.suffix_cons_iff.mp above with rfl | higher
          · exact absurd present absent
          · refine ⟨name, parent, rfl, .nearest higher present ?_⟩
            intro nearer on
            exact first nearer (on.trans (List.suffix_cons name parent))
    · rintro ⟨name, parent, rfl, (_ | @⟨directory, above, present, first⟩)⟩
      refine .nearest (above.trans (List.suffix_cons name parent)) present ?_
      intro nearer on longer
      rcases List.suffix_cons_iff.mp on with rfl | higher
      · simpa using absent
      · exact first nearer higher longer

/-- The nearest document is found unless its path is too long to look for one, by induction on the
way up from the working directory.
-/
theorem discover_eq_some_iff (fits : Place.isOverlong (configName :: workingDirectory) = false)
    : discover fs workingDirectory = .ok (some place) ↔ Selects fs workingDirectory none place := by
  induction workingDirectory with
  | nil =>
      rw [selects_none_iff]
      cases present : fs.isPresent [configName] with
      | true => simp [discover_of_present fits present, eq_comm]
      | false => simp [discover_root_of_absent present]
  | cons name parent ih =>
      rw [selects_none_iff]
      cases present : fs.isPresent (configName :: name :: parent) with
      | true => simp [discover_of_present fits present, eq_comm]
      | false =>
          have above := Place.fits_of_above fits (List.suffix_cons name parent)
          simp [discover_cons_of_absent fits present, ih above]

/-- The search fails only for its first document, by induction on the way up. -/
theorem exists_discover (fs : FileSystem)
    (fits : Place.isOverlong (configName :: workingDirectory) = false)
    : ∃ found, discover fs workingDirectory = .ok found := by
  induction workingDirectory with
  | nil =>
      cases present : fs.isPresent [configName] with
      | true => exact ⟨_, discover_of_present fits present⟩
      | false => exact ⟨none, discover_root_of_absent present⟩
  | cons name parent ih =>
      cases present : fs.isPresent (configName :: name :: parent) with
      | true => exact ⟨_, discover_of_present fits present⟩
      | false =>
          rw [discover_cons_of_absent fits present]
          exact ih (Place.fits_of_above fits (List.suffix_cons name parent))

/-- Settings come from one place at most: of two nearest documents neither is nearer. -/
theorem Selects.unique {config : Option String} {place' : Place}
    (selected : Selects fs workingDirectory config place)
    (selected' : Selects fs workingDirectory config place')
    : place = place' := by
  cases selected with
  | given leads =>
      cases selected' with
      | given leads' => exact Except.ok.inj (leads.symm.trans leads')
  | @nearest directory above present first =>
      obtain (_ | @⟨directory', above', present', first'⟩) := selected'
      rcases Nat.lt_trichotomy directory.length directory'.length with higher | same | lower
      · simp [first directory' above' higher] at present'
      · have on := List.suffix_of_suffix_length_le above above' (Nat.le_of_eq same)
        rw [on.eq_of_length same]
      · simp [first' directory above lower] at present

/-- What is selected is a directory or a file. -/
theorem Selects.isDirectory_iff {config : Option String} (rooted : fs.Rooted)
    (selected : Selects fs workingDirectory config place)
    : fs.isDirectory place = true ↔ ∀ octets, fs.entry? place ≠ some (.file octets) := by
  apply rooted.isDirectory_iff
  cases selected with
  | nearest _ present _ => exact Or.inr present
  | @given text _ leads =>
      obtain ⟨first, rest, split⟩ := List.exists_cons_of_ne_nil (Text.components_ne_nil text)
      -- The first name of a text is looked for in a directory.
      have directory := (FileSystem.follow_cons_eq_ok_iff.mp (split ▸ leads)).1
      exact rooted.present_of_follow (Or.inl directory) leads

/-- No document can be looked for, since the path of the first one would be too long. -/
def Unsearchable (workingDirectory : Place) (config : Option String) : Prop :=
  config = none ∧ Place.isOverlong (configName :: workingDirectory) = true

/-- Loading fails where no document can be looked for. Otherwise settings come from the place that
is selected, or are the defaults if there is none.
-/
theorem load_cases {config : Option String} (room : Nat)
    (named : ∀ text ∈ config, fs.names workingDirectory text = true)
    : let loading := load room fs workingDirectory (config.map PathName.ofText)
      (Unsearchable workingDirectory config
        ∧ loading = .error (.overlongName (Place.text (configName :: workingDirectory))))
      ∨ (¬ Unsearchable workingDirectory config
        ∧ ∃ place source,
            Selects fs workingDirectory config place ∧ loading = ofPlace room fs source place)
      ∨ (¬ Unsearchable workingDirectory config
        ∧ (∀ place, ¬ Selects fs workingDirectory config place)
        ∧ loading = .ok {}) := by
  intro loading
  cases config with
  | some text =>
      obtain ⟨place, leads, located⟩ := FileSystem.locate_of_names (named text rfl)
      refine Or.inr (Or.inl ⟨by simp [Unsearchable], place, (PathName.ofText text).text,
        .given leads, ?_⟩)
      simp [loading, load, located]
  | none =>
      cases overlong : Place.isOverlong (configName :: workingDirectory) with
      | true =>
          refine Or.inl ⟨⟨rfl, overlong⟩, ?_⟩
          simp [loading, load, discover_of_overlong fs overlong]
      | false =>
          have searchable : ¬ Unsearchable workingDirectory none := by
            simp [Unsearchable, overlong]
          obtain ⟨found, discovered⟩ := exists_discover fs overlong
          cases found with
          | some place =>
              refine Or.inr (Or.inl ⟨searchable, place, place.text, ?_, ?_⟩)
              · exact (discover_eq_some_iff overlong).mp discovered
              · simp [loading, load, discovered]
          | none =>
              refine Or.inr (Or.inr ⟨searchable, ?_, by simp [loading, load, discovered]⟩)
              intro place selected
              rw [(discover_eq_some_iff overlong).mpr selected] at discovered
              cases discovered

-----------------------------------------------------------------------------------------
-- Documents that hold no settings
-----------------------------------------------------------------------------------------

/-- The octets are a document in which arrays and inline tables are nested too deeply to be read. -/
def TooDeep (room : Nat) (octets : List UInt8) : Prop :=
  ∃ text left lines,
    octets = Text.Utf8.encode text ∧ Toml.read room text = .error (⟨.tooDeep, left⟩, lines)

/-- The octets are no text, no document, or a document with a section that is no settings. -/
inductive Invalid (room : Nat) (octets : List UInt8) : Prop where
  | notText (unencoded : ∀ text, octets ≠ Text.Utf8.encode text)
  | notDocument {text : List Char} {fault : Toml.Fault} {lines : List Char}
      (encoded : octets = Text.Utf8.encode text)
      (failed : Toml.read room text = .error (fault, lines)) (shallow : fault.cause ≠ .tooDeep)
  | server {text : List Char} {document : Data} {reason : SettingError}
      (encoded : octets = Text.Utf8.encode text) (read : Toml.read room text = .ok document)
      (refused : readServer (document.fieldOrNull "server") = .error reason)
  | routes {text : List Char} {document : Data} {reason : SettingError}
      (encoded : octets = Text.Utf8.encode text) (read : Toml.read room text = .ok document)
      (refused : readRoutes (document.fieldOrNull "routes") = .error reason)

end Config

/-- The error is worded for the user: it is about what a document says, and not about its depth. -/
def LoadError.Described : LoadError → Prop
  | .notUtf8 _ | .setting _ => True
  | .notToml fault _ => fault.cause ≠ .tooDeep
  | _ => False

namespace Config

variable {room : Nat}

/-- The octets of a text are too deep as the text is. -/
theorem tooDeep_encode_iff {text : List Char}
    : TooDeep room (Text.Utf8.encode text)
      ↔ ∃ left lines, Toml.read room text = .error (⟨.tooDeep, left⟩, lines) := by
  constructor
  · rintro ⟨text', left, lines, same, failed⟩
    rw [Text.Utf8.encode_injective same]
    exact ⟨left, lines, failed⟩
  · rintro ⟨left, lines, failed⟩
    exact ⟨text, left, lines, rfl, failed⟩

/-- The octets of a text are invalid if the text is no document, or if a section of it fails. -/
theorem invalid_encode_iff {text : List Char}
    : Invalid room (Text.Utf8.encode text)
      ↔ (∃ fault lines, Toml.read room text = .error (fault, lines) ∧ fault.cause ≠ .tooDeep)
        ∨ ∃ document reason,
            Toml.read room text = .ok document
            ∧ (readServer (document.fieldOrNull "server") = .error reason
              ∨ readRoutes (document.fieldOrNull "routes") = .error reason) := by
  constructor
  · intro invalid
    cases invalid with
    | notText unencoded => exact absurd rfl (unencoded text)
    | notDocument same failed shallow =>
        rw [Text.Utf8.encode_injective same]
        exact Or.inl ⟨_, _, failed, shallow⟩
    | server same read refused =>
        rw [Text.Utf8.encode_injective same]
        exact Or.inr ⟨_, _, read, Or.inl refused⟩
    | routes same read refused =>
        rw [Text.Utf8.encode_injective same]
        exact Or.inr ⟨_, _, read, Or.inr refused⟩
  · rintro (⟨fault, lines, failed, shallow⟩ | ⟨document, reason, read, refused | refused⟩)
    · exact .notDocument rfl failed shallow
    · exact .server rfl read refused
    · exact .routes rfl read refused

/-- A document has no settings if and only if one of its sections fails. -/
theorem exists_ofDocument_eq_error_iff (source : String) (document : Data)
    : (∃ reason, ofDocument source document = .error reason)
      ↔ ∃ reason,
          readServer (document.fieldOrNull "server") = .error reason
          ∨ readRoutes (document.fieldOrNull "routes") = .error reason := by
  unfold ofDocument
  cases readServer (document.fieldOrNull "server") with
  | error reason => simp [bind, Except.bind]
  | ok server =>
      cases readRoutes (document.fieldOrNull "routes") <;>
        simp [bind, Except.bind, pure, Except.pure]

/-- The settings in the octets of a text are those of the document that is read. -/
theorem ofOctets_encode (source : String) (text : List Char)
    : ofOctets room source (Text.Utf8.encode text)
      = match Toml.read room text with
        | .error (fault, lines) => .error (.notToml fault lines)
        | .ok document => (ofDocument source document).mapError .setting := by
  unfold ofOctets
  rw [Text.Utf8.decode_eq_ok_iff.mpr rfl]
  cases read : Toml.read room text <;> simp [read, Except.mapError, bind, Except.bind]

/-- Octets are too deep a document, or invalid, or hold settings, and are only one of these. -/
theorem ofOctets_cases (room : Nat) (source : String) (octets : List UInt8)
    : (TooDeep room octets
        ∧ ¬ Invalid room octets
        ∧ ∃ left lines, ofOctets room source octets = .error (.notToml ⟨.tooDeep, left⟩ lines))
      ∨ (¬ TooDeep room octets
        ∧ Invalid room octets
        ∧ ∃ e, ofOctets room source octets = .error e ∧ e.Described)
      ∨ (¬ TooDeep room octets
        ∧ ¬ Invalid room octets
        ∧ ∃ c, ofOctets room source octets = .ok c) := by
  by_cases unencoded : ∀ text, octets ≠ Text.Utf8.encode text
  · obtain ⟨fault, failed⟩ := Text.Utf8.exists_decode_eq_error_iff.mpr unencoded
    refine Or.inr (Or.inl ⟨?_, .notText unencoded, .notUtf8 fault, ?_, trivial⟩)
    · rintro ⟨text, _, _, encoded, _⟩
      exact unencoded text encoded
    · simp [ofOctets, failed, Except.mapError, bind, Except.bind]
  · obtain ⟨text, rfl⟩ : ∃ text, octets = Text.Utf8.encode text := by simpa using unencoded
    rw [tooDeep_encode_iff, invalid_encode_iff, ofOctets_encode]
    cases read : Toml.read room text with
    | error failure =>
        obtain ⟨⟨cause, left⟩, lines⟩ := failure
        by_cases deep : cause = .tooDeep
        · subst deep
          exact Or.inl (by simp)
        · exact Or.inr (Or.inl (by simpa [LoadError.Described] using deep))
    | ok document =>
        have sections := exists_ofDocument_eq_error_iff source document
        cases result : ofDocument source document with
        | error reason =>
            rw [result] at sections
            obtain ⟨refusal, refused⟩ := sections.mp ⟨reason, rfl⟩
            refine Or.inr (Or.inl ⟨by simp, Or.inr ⟨document, refusal, rfl, refused⟩, ?_⟩)
            exact ⟨.setting reason, by simp [result, Except.mapError], trivial⟩
        | ok c =>
            rw [result] at sections
            refine Or.inr (Or.inr ⟨by simp, ?_, c, by simp [result, Except.mapError]⟩)
            rintro (⟨_, _, impossible, _⟩ | ⟨_, refusal, same, refused⟩)
            · cases impossible
            · cases same
              obtain ⟨_, impossible⟩ := sections.mpr ⟨refusal, refused⟩
              cases impossible

end Config

end DirectoryRoutes
