import DirectoryRoutes.Config.Search
import DirectoryRoutes.Proofs.Config.SelectedDocuments
import Mathlib.Logic.Function.Iterate

/-! Documents that are discovered. The search goes up directory by directory and ends at the root at
the latest; what it finds is the nearest document, and settings come from there and from nowhere
else. It fails at once in a directory whose path leaves no room for the name of a document.
-/

namespace DirectoryRoutes.Config

variable {room : Nat} {fs : FileSystem} {workingDirectory place : Place} {source : String}

-----------------------------------------------------------------------------------------
-- The search comes to an end
-----------------------------------------------------------------------------------------

namespace Search

/-- A step fails, or it finds a document, or it ends at the root, or it goes on above a directory
without one.
-/
theorem step_goesOn_cases (fs : FileSystem) (directory : Place)
    : (Place.isOverlong (configName :: directory) = true
        ∧ (goesOn directory).step fs
          = .ended (.error (.overlongName (Place.text (configName :: directory)))))
      ∨ (Place.isOverlong (configName :: directory) = false
        ∧ fs.isPresent (configName :: directory) = true
        ∧ (goesOn directory).step fs = .ended (.ok (some (configName :: directory))))
      ∨ (fs.isPresent (configName :: directory) = false
        ∧ directory = []
        ∧ (goesOn directory).step fs = .ended (.ok none))
      ∨ (Place.isOverlong (configName :: directory) = false
        ∧ fs.isPresent (configName :: directory) = false
        ∧ ∃ name parent,
            directory = name :: parent ∧ (goesOn directory).step fs = .goesOn parent) := by
  cases overlong : Place.isOverlong (configName :: directory) with
  | true => simp [step, overlong]
  | false =>
      cases present : fs.isPresent (configName :: directory) with
      | true => simp [step, overlong, present]
      | false =>
          cases directory with
          | nil => simp [step, overlong, present, Place.parent]
          | cons name parent => simp [step, overlong, present, Place.parent]

/-- What a search comes to. -/
def outcome (fs : FileSystem) : Search → Except LoadError (Option Place)
  | goesOn directory => discover fs directory
  | ended result => result

/-- The most directories that are still to be looked into. -/
def left : Search → Nat
  | goesOn directory => directory.length + 1
  | ended _ => 0

/-- A step leaves what the search comes to, by cases on the step. -/
theorem outcome_step (s : Search) : (s.step fs).outcome fs = s.outcome fs := by
  cases s with
  | ended result => rfl
  | goesOn directory =>
      rcases step_goesOn_cases fs directory with
        ⟨overlong, stepped⟩ | ⟨fits, present, stepped⟩ | ⟨absent, rfl, stepped⟩
        | ⟨fits, absent, name, parent, rfl, stepped⟩
      · simp [stepped, outcome, discover_of_overlong fs overlong]
      · simp [stepped, outcome, discover_of_present fits present]
      · simp [stepped, outcome, discover_root_of_absent absent]
      · simp [stepped, outcome, discover_cons_of_absent fits absent]

/-- A step leaves fewer directories to be looked into, by cases on the step. -/
theorem left_step_le (fs : FileSystem) (s : Search) : (s.step fs).left ≤ s.left - 1 := by
  cases s with
  | ended result => exact Nat.le_refl _
  | goesOn directory =>
      rcases step_goesOn_cases fs directory with
        ⟨_, stepped⟩ | ⟨_, _, stepped⟩ | ⟨_, _, stepped⟩ | ⟨_, _, name, parent, rfl, stepped⟩ <;>
        simp [stepped, left]

/-- A search with enough steps ends with what it comes to: a step keeps that and leaves less to be
looked into, by induction on the steps.
-/
theorem iterate_step {steps : Nat} {s : Search} (enough : s.left ≤ steps)
    : (step fs)^[steps] s = .ended (s.outcome fs) := by
  induction steps generalizing s with
  | zero =>
      cases s with
      | ended result => rfl
      | goesOn directory => simp [left] at enough
  | succ steps ih =>
      have less := left_step_le fs s
      rw [Function.iterate_succ_apply, ih (by omega), outcome_step]

end Search

-----------------------------------------------------------------------------------------
-- Settings of the nearest document
-----------------------------------------------------------------------------------------

/-- Nothing is found if and only if no directory on the way up has a document, by induction on the
way.
-/
theorem discover_eq_none_iff (fits : Place.isOverlong (configName :: workingDirectory) = false)
    : discover fs workingDirectory = .ok none
      ↔ ∀ directory,
          directory <:+ workingDirectory → fs.isPresent (configName :: directory) = false := by
  induction workingDirectory with
  | nil =>
      cases present : fs.isPresent [configName] with
      | true => simp [discover_of_present fits present, present]
      | false => simp [discover_root_of_absent present, present]
  | cons name parent ih =>
      have above := Place.fits_of_above fits (List.suffix_cons name parent)
      cases present : fs.isPresent (configName :: name :: parent) with
      | true => simp [discover_of_present fits present, present, List.suffix_cons_iff]
      | false =>
          simp [discover_cons_of_absent fits present, present, ih above, List.suffix_cons_iff]

/-- The same document is selected wherever the way up to it is the same. -/
theorem Selects.of_same_way {other : FileSystem} (selected : Selects fs workingDirectory none place)
    (same
      : ∀ directory,
          directory <:+ workingDirectory
          → place.parent <:+ directory
          → other.entry? (configName :: directory) = fs.entry? (configName :: directory))
    : Selects other workingDirectory none place ∧ other.entry? place = fs.entry? place := by
  obtain (_ | @⟨directory, above, present, first⟩) := selected
  have here := same directory above (List.suffix_refl directory)
  refine ⟨.nearest above ?_ ?_, here⟩
  · rwa [FileSystem.isPresent, here]
  · intro nearer on longer
    have behind : directory <:+ nearer :=
      List.suffix_of_suffix_length_le above on (Nat.le_of_lt longer)
    rw [FileSystem.isPresent, same nearer on behind]
    exact first nearer on longer

/-- Settings that are read from octets record where the octets are. -/
theorem source_of_ofOctets {octets : List UInt8} {c : Config}
    (read : ofOctets room source octets = .ok c)
    : c.source = some source := by
  simp only [ofOctets, ofDocument, bind_eq_ok_iff, mapError_eq_ok_iff, pure, Except.pure,
    Except.ok.injEq] at read
  obtain ⟨_, _, _, _, _, _, _, _, rfl⟩ := read
  rfl

/-- A place has settings if it is a file that holds a document with valid sections. -/
theorem exists_ofPlace_iff
    : (∃ c, ofPlace room fs source place = .ok c)
      ↔ ∃ octets,
          fs.entry? place = some (.file octets)
          ∧ ¬ TooDeep room octets
          ∧ ¬ Invalid room octets := by
  cases entry : fs.entry? place with
  | none => simp [ofPlace, entry]
  | some e =>
      cases e with
      | directory => simp [ofPlace, entry]
      | file octets =>
          rcases ofOctets_cases room source octets with
            ⟨deep, _, _, _, failed⟩ | ⟨_, invalid, _, failed, _⟩ | ⟨shallow, valid, c, read⟩
          · simp [ofPlace, entry, failed, deep]
          · simp [ofPlace, entry, failed, invalid]
          · simp [ofPlace, entry, read, shallow, valid]

/-- Settings that are read from a place record the place. -/
theorem source_of_ofPlace {c : Config} (read : ofPlace room fs source place = .ok c)
    : c.source = some source := by
  unfold ofPlace at read
  split at read
  · exact source_of_ofOctets read
  · cases read

/-- What is found is loaded, and recorded by its place. -/
theorem load_of_found (found : discover fs workingDirectory = .ok (some place))
    : load room fs workingDirectory none = ofPlace room fs place.text place := by
  simp only [load, found]

/-- Where nothing is found the defaults are loaded. -/
theorem load_of_none_found (missing : discover fs workingDirectory = .ok none)
    : load room fs workingDirectory none = .ok {} := by
  simp only [load, missing]

/-- Loading fails as the search does. -/
theorem load_of_search_failed {e : LoadError} (failed : discover fs workingDirectory = .error e)
    : load room fs workingDirectory none = .error e := by
  simp only [load, failed]

/-- Settings record the place of the document that was found, and nothing if there is none. -/
theorem discover_of_load {c : Config} (loaded : load room fs workingDirectory none = .ok c)
    : ∃ found,
        discover fs workingDirectory = .ok found ∧ c.source = found.map Place.text := by
  cases discovered : discover fs workingDirectory with
  | error e =>
      rw [load_of_search_failed discovered] at loaded
      cases loaded
  | ok found =>
      refine ⟨found, rfl, ?_⟩
      cases found with
      | none =>
          rw [load_of_none_found discovered] at loaded
          cases loaded
          rfl
      | some place => exact source_of_ofPlace ((load_of_found discovered).symm.trans loaded)

/-- The search for a document ends, whatever exists, after a step for each directory on the way at
the latest. In a directory whose path leaves no room for the name of a document it fails, and
nothing is loaded. In any other one it has then found the nearest document, or nothing if there is
none. Settings are those of what is found, if it holds any, and record where it is; whatever is
farther away has no effect on them, even if what is found holds none. Only if nothing is found are
they the defaults without a record.
-/
theorem discovered_exact (room : Nat) (fs : FileSystem) (workingDirectory : Place)
    : let settings := load room fs workingDirectory none
      let document : Place := configName :: workingDirectory
      ∃ result,
        (∀ steps,
          workingDirectory.length < steps
          → (Search.step fs)^[steps] (.goesOn workingDirectory) = .ended result)
        ∧ (document.isOverlong = true
            → result = .error (.overlongName document.text)
              ∧ settings = .error (.overlongName document.text))
        ∧ (document.isOverlong = false
            → ∃ found,
                result = .ok found
                ∧ (∀ place, found = some place ↔ Selects fs workingDirectory none place)
                ∧ (found = none
                    ↔ ∀ directory,
                        directory <:+ workingDirectory
                        → fs.isPresent (configName :: directory) = false)
                ∧ (∀ place,
                    found = some place
                    → settings = ofPlace room fs place.text place
                      ∧ (∀ c, settings = .ok c → c.source = some place.text)
                      ∧ ((∃ c, settings = .ok c)
                          ↔ ∃ octets,
                              fs.entry? place = some (.file octets)
                              ∧ ¬ TooDeep room octets
                              ∧ ¬ Invalid room octets)
                      ∧ ∀ other : FileSystem,
                          (∀ directory,
                            directory <:+ workingDirectory
                            → place.parent <:+ directory
                            → other.entry? (configName :: directory)
                              = fs.entry? (configName :: directory))
                          → load room other workingDirectory none = settings)
                ∧ (found = none ↔ settings = .ok {})
                ∧ (found = none ↔ ∃ c, settings = .ok c ∧ c.source = none)) := by
  intro settings document
  refine ⟨discover fs workingDirectory, fun steps enough => Search.iterate_step enough, ?_, ?_⟩
  · intro overlong
    have failed := discover_of_overlong fs overlong
    exact ⟨failed, load_of_search_failed failed⟩
  · intro fits
    obtain ⟨found, discovered⟩ := exists_discover fs fits
    have same (other : Option Place)
        : found = other ↔ discover fs workingDirectory = .ok other := by
      rw [discovered, Except.ok.injEq]
    have selected (place : Place) : found = some place ↔ Selects fs workingDirectory none place :=
      (same (some place)).trans (discover_eq_some_iff fits)
    have recorded {c : Config} (loaded : settings = .ok c) : c.source = found.map Place.text := by
      obtain ⟨found', discovered', source⟩ := discover_of_load loaded
      rw [source, (same found').mpr discovered']
    have unrecorded {c : Config} (loaded : settings = .ok c) (missing : c.source = none)
        : found = none :=
      Option.map_eq_none_iff.mp ((recorded loaded).symm.trans missing)
    have defaults (missing : found = none) : settings = .ok {} :=
      load_of_none_found ((same none).mp missing)
    refine ⟨found, discovered, selected, (same none).trans (discover_eq_none_iff fits), ?_, ?_, ?_⟩
    · intro place here
      have taken : settings = ofPlace room fs place.text place :=
        load_of_found ((same (some place)).mp here)
      refine ⟨taken, ?_, ?_, ?_⟩
      · intro c loaded
        rw [recorded loaded, here]
        rfl
      · rw [taken]
        exact exists_ofPlace_iff
      · intro other alike
        obtain ⟨again, entry⟩ := ((selected place).mp here).of_same_way alike
        rw [load_of_found ((discover_eq_some_iff fits).mpr again), taken]
        simp only [ofPlace, entry]
    · exact ⟨defaults, fun loaded => unrecorded loaded rfl⟩
    · constructor
      · intro missing
        exact ⟨{}, defaults missing, rfl⟩
      · rintro ⟨c, loaded, missing⟩
        exact unrecorded loaded missing

/-- A directory whose path leaves one octet too few for the name of a document. -/
def farDirectory : Place :=
  String.ofList (List.replicate 241 'd')
    :: List.replicate 15 (String.ofList (List.replicate 255 'd'))

/-- The document at the root is not found from a directory that is too far away, although the path
of that directory is not too long itself.
-/
theorem undiscovered_from_farDirectory
    : let fs := FileSystem.ofLists [([configName], [])] [farDirectory]
      fs.isDirectory farDirectory = true
      ∧ farDirectory.isOverlong = false
      ∧ fs.isPresent [configName] = true
      ∧ discover fs farDirectory
        = .error (.overlongName (Place.text (configName :: farDirectory)))
      ∧ load 970 fs farDirectory none
        = .error (.overlongName (Place.text (configName :: farDirectory))) := by
  intro fs
  have overlong : Place.isOverlong (configName :: farDirectory) = true := by decide +kernel
  have failed := discover_of_overlong fs overlong
  exact ⟨by decide +kernel, by decide +kernel, by decide, failed, load_of_search_failed failed⟩

example
    : load 970 (.ofLists [(["approute.toml"], [])] [["approute.toml", "a"]]) ["b", "a"] none
      = .error .isDirectory :=
  rfl

end DirectoryRoutes.Config
