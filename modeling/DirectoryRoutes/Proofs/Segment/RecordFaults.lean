import DirectoryRoutes.Proofs.Segment.Records

/-! Values that are read as segments, and why others are not. A segment comes back from its record,
and a value is read exactly if its type and its name go together; the name is looked at before the
type, which may be anything.
-/

namespace DirectoryRoutes

/-- Two words stand for markers, and no others. -/
theorem Marker.ofWord?_eq_none_iff {word : String}
    : ofWord? word = none ↔ word ≠ "page" ∧ word ≠ "route" := by
  unfold ofWord?
  grind

namespace Segment

/-- The shapes of the segments that take any name: all but that of a marker. -/
def namedShapes : List String :=
  ["static", "dynamic", "catch_all", "optional_catch_all", "group", "parallel"]

-----------------------------------------------------------------------------------------
-- Types and names that go together
-----------------------------------------------------------------------------------------

/-- A word stands for a shape if and only if it is one of the list. -/
theorem ofShape?_eq_none_iff {word name : String}
    : ofShape? word name = none ↔ word ∉ namedShapes := by
  unfold ofShape? namedShapes
  grind

/-- A type and a name are the words of a segment if and only if the type is a shape that takes any
name, or it is that of a marker and the name is a marker's word.
-/
theorem exists_words_iff {word name : String}
    : (∃ s : Segment, word = s.shape ∧ name = s.name)
      ↔ word ∈ namedShapes ∨ word = "page_type" ∧ (name = "page" ∨ name = "route") := by
  constructor
  · intro words
    obtain ⟨s, rfl, rfl⟩ := words
    cases s with
    | marker kind => cases kind <;> simp [shape, Segment.name, Marker.word]
    | _ => simp [shape, namedShapes]
  · intro words
    rcases words with named | ⟨rfl, rfl | rfl⟩
    · have found : ofShape? word name ≠ none := fun none => ofShape?_eq_none_iff.mp none named
      obtain ⟨s, found⟩ := Option.ne_none_iff_exists'.mp found
      exact ⟨s, (ofShape?_eq_some_iff.mp found).2⟩
    · exact ⟨marker .page, rfl, rfl⟩
    · exact ⟨marker .route, rfl, rfl⟩

/-- A document is read as a segment exactly if it has a name, and a type that goes with the name. -/
theorem exists_ofData_iff {d : Data}
    : (∃ s, ofData d = .ok s)
      ↔ (∃ fields, d = .record fields)
        ∧ ∃ name,
            d.field? "name" = some (.text name)
            ∧ ((∃ word ∈ namedShapes, d.field? "type" = some (.text word))
              ∨ d.field? "type" = some (.text "page_type") ∧ (name = "page" ∨ name = "route")) := by
  simp only [ofData_eq_ok_iff]
  constructor
  · intro words
    obtain ⟨s, typed, named⟩ := words
    refine ⟨Data.exists_fields_of_field? named, s.name, named, ?_⟩
    rcases exists_words_iff.mp ⟨s, rfl, rfl⟩ with listed | ⟨marked, word⟩
    · exact Or.inl ⟨s.shape, listed, typed⟩
    · exact Or.inr ⟨marked ▸ typed, word⟩
  · intro words
    obtain ⟨_, name, named, ⟨word, listed, typed⟩ | ⟨typed, word⟩⟩ := words
    · obtain ⟨s, rfl, rfl⟩ : ∃ s : Segment, word = s.shape ∧ name = s.name :=
        exists_words_iff.mpr (Or.inl listed)
      exact ⟨s, typed, named⟩
    · obtain ⟨s, marked, rfl⟩ := exists_words_iff.mpr (Or.inr ⟨rfl, word⟩)
      exact ⟨s, marked ▸ typed, named⟩

-----------------------------------------------------------------------------------------
-- Why a value is not read
-----------------------------------------------------------------------------------------

/-- Why a value is not read as a segment, by the first check that it fails: to be a record, to have
a text for its name, and to have a type that goes with the name.
-/
inductive Unread (d : Data) : SegmentRecordError → Prop where
  | notRecord (other : ∀ fields, d ≠ .record fields) : Unread d .notRecord
  | nameNotText {fields : List (String × Data)} (object : d = .record fields)
      (unnamed : ∀ name, d.field? "name" ≠ some (.text name))
    : Unread d .nameNotText
  | unknownMarker {name : String} (named : d.field? "name" = some (.text name))
      (typed : d.field? "type" = some (.text "page_type"))
      (unknown : name ≠ "page" ∧ name ≠ "route")
    : Unread d (.unknownMarker name)
  | unknownShape {name : String} (named : d.field? "name" = some (.text name))
      (unknown : ∀ word, d.field? "type" = some (.text word) → word ∉ "page_type" :: namedShapes)
    : Unread d (.unknownShape (d.fieldOrNull "type"))

/-- A type and a name are refused for a name that is no marker, or for a type that is no shape. -/
theorem ofTypeAndName_eq_error_iff {type : Data} {name : String} {reason : SegmentRecordError}
    : ofTypeAndName type name = .error reason
      ↔ type = .text "page_type" ∧ Marker.ofWord? name = none ∧ reason = .unknownMarker name
        ∨ (∀ word, type = .text word → word ∉ "page_type" :: namedShapes)
          ∧ reason = .unknownShape type := by
  unfold ofTypeAndName
  split
  · cases Marker.ofWord? name <;> simp [eq_comm]
  · rename_i word other
    have apart : word ≠ "page_type" := by
      rintro rfl
      exact other rfl
    cases known : ofShape? word name with
    | none =>
        have unknown := ofShape?_eq_none_iff.mp known
        simp [apart, unknown, eq_comm]
    | some s =>
        have listed : word ∈ namedShapes := by
          by_contra unlisted
          simp [ofShape?_eq_none_iff.mpr unlisted] at known
        simp [apart, listed]
  · rename_i wordless
    have other (word : String) : type ≠ .text word := wordless word
    simp [other, eq_comm (a := reason)]

/-- A document with a name is read by its type and the name. -/
theorem ofData_of_named {d : Data} {name : String} (named : d.field? "name" = some (.text name))
    : ofData d = ofTypeAndName (d.fieldOrNull "type") name := by
  obtain ⟨fields, rfl⟩ := Data.exists_fields_of_field? named
  simp only [ofData, named]

/-- A value is not read for the reason of the first check that it fails, by cases on the checks. -/
theorem ofData_eq_error_iff {d : Data} {reason : SegmentRecordError}
    : ofData d = .error reason ↔ Unread d reason := by
  constructor
  · intro failed
    unfold ofData at failed
    split at failed
    · split at failed
      · rename_i name named
        rcases ofTypeAndName_eq_error_iff.mp failed with ⟨typed, unknown, rfl⟩ | ⟨unknown, rfl⟩
        · exact .unknownMarker named (Data.fieldOrNull_eq_text_iff.mp typed)
            (Marker.ofWord?_eq_none_iff.mp unknown)
        · exact .unknownShape named fun word typed =>
            unknown word (Data.fieldOrNull_eq_text_iff.mpr typed)
      · rename_i unnamed
        cases failed
        exact .nameNotText rfl unnamed
    · rename_i other
      cases failed
      exact .notRecord other
  · intro unread
    cases unread with
    | notRecord other =>
        cases d with
        | record fields => exact absurd rfl (other fields)
        | _ => rfl
    | nameNotText object unnamed =>
        subst object
        unfold ofData
        dsimp only
        split
        · rename_i name named
          exact absurd named (unnamed name)
        · rfl
    | unknownMarker named typed unknown =>
        rw [ofData_of_named named, ofTypeAndName_eq_error_iff, Data.fieldOrNull_eq_text_iff,
          Marker.ofWord?_eq_none_iff]
        exact Or.inl ⟨typed, unknown, rfl⟩
    | unknownShape named unknown =>
        rw [ofData_of_named named, ofTypeAndName_eq_error_iff]
        exact Or.inr ⟨fun word typed => unknown word (Data.fieldOrNull_eq_text_iff.mp typed), rfl⟩

/-- Every segment is read from its record. A value is read exactly if it is a record with a text for
its name and a type that goes with it, and the record of the segment has this type and this name.
Any other value is not read for the reason of the first check that it fails, whatever its type is.
-/
theorem record_codec_exact
    : (∀ s : Segment, ofData s.toData = .ok s)
      ∧ ∀ d : Data,
          ((∃ s, ofData d = .ok s)
            ↔ (∃ fields, d = .record fields)
              ∧ ∃ name,
                  d.field? "name" = some (.text name)
                  ∧ ((∃ word ∈ namedShapes, d.field? "type" = some (.text word))
                    ∨ d.field? "type" = some (.text "page_type")
                      ∧ (name = "page" ∨ name = "route")))
          ∧ (∀ s,
              ofData d = .ok s
              → ∃ type name,
                  d.field? "type" = some type
                  ∧ d.field? "name" = some name
                  ∧ s.toData = .record [("type", type), ("name", name)])
          ∧ ∀ reason, ofData d = .error reason ↔ Unread d reason := by
  refine ⟨ofData_toData, fun d => ⟨exists_ofData_iff, ?_, fun _ => ofData_eq_error_iff⟩⟩
  intro s read
  obtain ⟨typed, named⟩ := ofData_eq_ok_iff.mp read
  exact ⟨_, _, typed, named, rfl⟩

end Segment

end DirectoryRoutes
