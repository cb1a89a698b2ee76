import DirectoryRoutes.Page.Record
import DirectoryRoutes.Proofs.Page.SegmentOrder
import DirectoryRoutes.Proofs.Segment.Records

/-! Records of pages. Every item that is listed is read as a segment before the order of the
segments is looked at, so an item that is no segment is the reason for a refusal even where segments
before it are out of order.
-/

namespace DirectoryRoutes

namespace Page

/-- What a value is read as, by the first check that it fails: to be a record, to list items, to
have each of them read as a segment, and to have nothing but a marker directly behind a catch-all.
-/
inductive ReadAs (d : Data) : Except PageRecordError Page → Prop where
  | notRecord (other : ∀ fields, d ≠ .record fields) : ReadAs d (.error .notRecord)
  | unlisted {fields : List (String × Data)} (object : d = .record fields)
      (unlisted : ∀ items, d.field? "segments" ≠ some (.list items))
    : ReadAs d (.error .segmentsNotList)
  | unread {before after : List Data} {item : Data} {segments : List Segment}
      {reason : SegmentRecordError}
      (listed : d.field? "segments" = some (.list (before ++ item :: after)))
      (read : before.map Segment.ofData = segments.map .ok)
      (failed : Segment.ofData item = .error reason)
    : ReadAs d (.error (.segment reason))
  | disordered {items : List Data} {before after : List Segment} {catcher next : Segment}
      (listed : d.field? "segments" = some (.list items))
      (read : items.map Segment.ofData = (before ++ catcher :: next :: after).map .ok)
      (ordered : (before ++ [catcher]).IsChain Segment.MayPrecede)
      (catching : catcher.isCatchAll = true) (unmarked : next.isMarker = false)
    : ReadAs d (.error (.order (.invalidAppend next (before ++ [catcher]))))
  | page {items : List Data} {segments : List Segment}
      (listed : d.field? "segments" = some (.list items))
      (read : items.map Segment.ofData = segments.map .ok)
      (ordered : segments.IsChain Segment.MayPrecede)
    : ReadAs d (.ok ⟨segments⟩)

/-- Every document is read as a page or fails for one reason, by cases on its segments. -/
theorem exists_readAs (d : Data) : ∃ result, ReadAs d result := by
  by_cases object : ∃ fields, d = .record fields
  · obtain ⟨fields, object⟩ := object
    by_cases listed : ∃ items, d.field? "segments" = some (.list items)
    · obtain ⟨items, listed⟩ := listed
      cases read : items.mapM Segment.ofData with
      | error reason =>
          obtain ⟨before, item, after, segments, rfl, read, failed⟩ := mapM_eq_error_iff.mp read
          exact ⟨_, .unread listed read failed⟩
      | ok segments =>
          have read := mapM_eq_ok_iff.mp read
          cases built : ofSegments segments with
          | error reason =>
              obtain ⟨before, catcher, next, after, rfl, ordered, catching, unmarked, _⟩ :=
                ofSegments_eq_error_iff.mp built
              exact ⟨_, .disordered listed read ordered catching unmarked⟩
          | ok p => exact ⟨_, .page listed read (ofSegments_eq_ok_iff.mp built).1⟩
    · exact ⟨_, .unlisted object (not_exists.mp listed)⟩
  · exact ⟨_, .notRecord (not_exists.mp object)⟩

/-- A document that lists its segments is read item by item, and then their order is checked. -/
theorem ofData_of_listed {d : Data} {items : List Data}
    (listed : d.field? "segments" = some (.list items))
    : ofData d
      = (items.mapM Segment.ofData).mapError .segment >>= fun segments =>
          (ofSegments segments).mapError .order := by
  obtain ⟨fields, rfl⟩ := Data.exists_fields_of_field? listed
  unfold ofData
  simp only [listed]

/-- What a value is read as by its checks is what it is read as, by cases on the check that fails
first.
-/
theorem ofData_of_readAs {d : Data} {result : Except PageRecordError Page}
    (readAs : ReadAs d result)
    : ofData d = result := by
  cases readAs with
  | notRecord other =>
      unfold ofData
      split
      · rename_i fields
        exact absurd rfl (other fields)
      · rfl
  | unlisted object unlisted =>
      subst object
      unfold ofData
      dsimp only
      split
      · rename_i items listed
        exact absurd listed (unlisted items)
      · rfl
  | @unread before after item segments reason listed read failed =>
      have first : (before ++ item :: after).mapM Segment.ofData = .error reason :=
        mapM_eq_error_iff.mpr ⟨before, item, after, segments, rfl, read, failed⟩
      rw [ofData_of_listed listed, bind_eq_error_iff]
      exact Or.inl (mapError_eq_error_iff.mpr ⟨_, first, rfl⟩)
  | @disordered items before after catcher next listed read ordered catching unmarked =>
      have first : ofSegments (before ++ catcher :: next :: after)
          = .error (.invalidAppend next (before ++ [catcher])) :=
        ofSegments_eq_error_iff.mpr
          ⟨before, catcher, next, after, rfl, ordered, catching, unmarked, rfl⟩
      rw [ofData_of_listed listed, bind_eq_error_iff]
      refine Or.inr ⟨_, mapError_eq_ok_iff.mpr (mapM_eq_ok_iff.mpr read), ?_⟩
      exact mapError_eq_error_iff.mpr ⟨_, first, rfl⟩
  | @page items segments listed read ordered =>
      have built : ofSegments segments = .ok ⟨segments⟩ := ofSegments_eq_ok_iff.mpr ⟨ordered, rfl⟩
      rw [ofData_of_listed listed, bind_eq_ok_iff]
      refine ⟨_, mapError_eq_ok_iff.mpr (mapM_eq_ok_iff.mpr read), ?_⟩
      exact mapError_eq_ok_iff.mpr built

/-- The reading of a document is given by what it is read as, which there is and is unique. -/
theorem ofData_eq_iff {d : Data} {result : Except PageRecordError Page}
    : ofData d = result ↔ ReadAs d result := by
  constructor
  · rintro rfl
    obtain ⟨result, readAs⟩ := exists_readAs d
    rwa [ofData_of_readAs readAs]
  · exact ofData_of_readAs

/-- A value is read as a page if and only if it lists what is read as the page's segments and these
have their neighbours in order.
-/
theorem ofData_eq_ok_iff {d : Data} {p : Page}
    : ofData d = .ok p
      ↔ ∃ items,
          d.field? "segments" = some (.list items)
          ∧ items.map Segment.ofData = p.segments.map .ok
          ∧ p.NeighboursOrdered := by
  rw [ofData_eq_iff]
  constructor
  · intro readAs
    cases readAs with
    | page listed read ordered => exact ⟨_, listed, read, ordered⟩
  · intro whole
    obtain ⟨items, listed, read, ordered⟩ := whole
    exact .page listed read ordered

/-- The segments of a page that is read from a document are ordered. -/
theorem neighboursOrdered_ofData {d : Data} {p : Page} (read : ofData d = .ok p)
    : p.NeighboursOrdered := by
  obtain ⟨_, _, _, ordered⟩ := ofData_eq_ok_iff.mp read
  exact ordered

/-- A page with its neighbours in order is read from every value that lists the records of its
segments.
-/
theorem NeighboursOrdered.ofData {p : Page} (ordered : p.NeighboursOrdered) {d : Data}
    (listed : d.field? "segments" = some (.list (p.segments.map Segment.toData)))
    : Page.ofData d = .ok p :=
  ofData_eq_ok_iff.mpr ⟨_, listed, by simp, ordered⟩

/-- A page that is read from a document has the items of it, reduced to what is read. -/
theorem exists_items_of_ofData {d : Data} {p : Page} (read : ofData d = .ok p)
    : ∃ items,
        d.field? "segments" = some (.list items)
        ∧ items.map Segment.reduced = p.segments.map Segment.toData := by
  obtain ⟨items, listed, each, _⟩ := ofData_eq_ok_iff.mp read
  exact ⟨items, listed, map_eq_map_of_results each fun _ _ => Segment.reduced_of_ofData⟩

end Page

end DirectoryRoutes
