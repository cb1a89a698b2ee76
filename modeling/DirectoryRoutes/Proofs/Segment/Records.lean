import DirectoryRoutes.Proofs.Segment.TokenForms
import DirectoryRoutes.Segment.Record

/-! Records of segments. A value is read as a segment if and only if its type and its name are the
words of that segment; whatever else it holds is lost.
-/

namespace DirectoryRoutes

/-- A marker is read from its own word. -/
theorem Marker.ofWord?_eq_some_iff {word : String} {kind : Marker}
    : Marker.ofWord? word = some kind ↔ word = kind.word := by
  unfold Marker.ofWord?
  cases kind <;> grind [Marker.word]

/-- Only a record has fields. -/
theorem Data.exists_fields_of_field? {d value : Data} {name : String}
    (found : d.field? name = some value)
    : ∃ fields, d = .record fields := by
  cases d with
  | record fields => exact ⟨fields, rfl⟩
  | _ => simp [field?] at found

/-- A field that is a text is there. -/
theorem Data.fieldOrNull_eq_text_iff {d : Data} {name word : String}
    : d.fieldOrNull name = .text word ↔ d.field? name = some (.text word) := by
  unfold fieldOrNull
  cases d.field? name <;> simp

namespace Segment

/-- A shape and a name give a segment if and only if they are its words and it is no marker. -/
theorem ofShape?_eq_some_iff {word name : String} {s : Segment}
    : ofShape? word name = some s ↔ s.isMarker = false ∧ word = s.shape ∧ name = s.name := by
  constructor
  · intro found
    unfold ofShape? at found
    grind [isMarker, shape, Segment.name]
  · intro words
    obtain ⟨unmarked, rfl, rfl⟩ := words
    cases s with
    | marker kind => cases unmarked
    | _ => simp [shape, Segment.name, ofShape?]

/-- A type and a name are read as the segment of which they are, by cases on the type. -/
theorem ofTypeAndName_eq_ok_iff {type : Data} {name : String} {s : Segment}
    : ofTypeAndName type name = .ok s ↔ type = .text s.shape ∧ name = s.name := by
  constructor
  · intro read
    unfold ofTypeAndName at read
    split at read
    · split at read
      · rename_i kind known
        cases read
        exact ⟨rfl, Marker.ofWord?_eq_some_iff.mp known⟩
      · cases read
    · split at read
      · rename_i word _ _ found
        cases read
        obtain ⟨_, rfl, rfl⟩ := ofShape?_eq_some_iff.mp found
        exact ⟨rfl, rfl⟩
      · cases read
    · cases read
  · intro words
    obtain ⟨rfl, rfl⟩ := words
    cases s with
    | marker kind =>
        have known : Marker.ofWord? kind.word = some kind := Marker.ofWord?_eq_some_iff.mpr rfl
        simp [ofTypeAndName, shape, Segment.name, known]
    | _ => simp [ofTypeAndName, shape, Segment.name, ofShape?]

/-- A value is read as the segment whose words are its type and its name. -/
theorem ofData_eq_ok_iff {d : Data} {s : Segment}
    : ofData d = .ok s
      ↔ d.field? "type" = some (.text s.shape) ∧ d.field? "name" = some (.text s.name) := by
  constructor
  · intro read
    unfold ofData at read
    split at read
    · split at read
      · rename_i name named
        obtain ⟨typed, rfl⟩ := ofTypeAndName_eq_ok_iff.mp read
        exact ⟨Data.fieldOrNull_eq_text_iff.mp typed, named⟩
      · cases read
    · cases read
  · intro words
    obtain ⟨typed, named⟩ := words
    obtain ⟨fields, rfl⟩ := Data.exists_fields_of_field? typed
    simp [ofData, named, Data.fieldOrNull, typed, ofTypeAndName_eq_ok_iff]

/-- A segment is read from its record. -/
@[simp]
theorem ofData_toData (s : Segment) : ofData s.toData = .ok s :=
  ofData_eq_ok_iff.mpr ⟨rfl, rfl⟩

/-- The type and the name of a value, null where they are missing, and nothing else of it. -/
def reduced (d : Data) : Data :=
  .record [("type", d.fieldOrNull "type"), ("name", d.fieldOrNull "name")]

/-- What is read of a document is the record of its segment. -/
theorem reduced_of_ofData {d : Data} {s : Segment} (read : ofData d = .ok s)
    : reduced d = s.toData := by
  obtain ⟨typed, named⟩ := ofData_eq_ok_iff.mp read
  simp [reduced, toData, Data.fieldOrNull, typed, named]

end Segment

end DirectoryRoutes
