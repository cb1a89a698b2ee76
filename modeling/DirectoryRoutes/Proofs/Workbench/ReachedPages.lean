import DirectoryRoutes.Proofs.Page.CanonicalPaths
import DirectoryRoutes.Proofs.Page.Records
import DirectoryRoutes.Workbench

/-! The pages that a program of steps reaches. Failing steps included, neighbours stay in order on
every page; whether all segments are in order then depends on what was appended behind a marker, and
whether a page is read again from its text depends on its segments one by one.
-/

namespace DirectoryRoutes.Workbench

-----------------------------------------------------------------------------------------
-- Every step keeps neighbours in order
-----------------------------------------------------------------------------------------

/-- Every page on the workbench has its neighbours in order. -/
def PagesOrdered (w : Workbench) : Prop :=
  ∀ name p, Table.get? name w = some (.page p) → p.NeighboursOrdered

/-- A page is found by a name that stands for it. -/
theorem page_eq_ok_iff {w : Workbench} {name operation : String} {p : Page}
    : w.page name operation = .ok p ↔ Table.get? name w = some (.page p) := by
  unfold page piece
  cases Table.get? name w with
  | none => simp [bind, Except.bind]
  | some x => cases x <;> simp [bind, Except.bind]

/-- A page that a step makes has its neighbours in order, by cases on the step: it is built from
nothing, it extends a page of the workbench, or it is such a page.
-/
theorem PagesOrdered.outcome {w : Workbench} {step : Step} {name : String} {q : Page} {a : Answer}
    (ordered : w.PagesOrdered) (made : w.outcome step = .ok (some (name, .page q), a))
    : q.NeighboursOrdered := by
  cases step <;>
    simp only [Workbench.outcome, bind_eq_ok_iff, mapError_eq_ok_iff, page_eq_ok_iff, pure,
      Except.pure, Except.ok.injEq, Prod.mk.injEq, Option.some.injEq, Piece.page.injEq,
      reduceCtorEq, and_false, false_and, exists_false] at made
  case new segments =>
    obtain ⟨p, built, ⟨rfl, rfl⟩, rfl⟩ := made
    obtain ⟨chain, rfl⟩ := Page.ofSegments_eq_ok_iff.mp built
    exact chain
  case parse path =>
    obtain ⟨p, built, ⟨rfl, rfl⟩, rfl⟩ := made
    exact Page.neighboursOrdered_ofTokens built
  case ofData data =>
    obtain ⟨p, read, ⟨rfl, rfl⟩, rfl⟩ := made
    exact Page.neighboursOrdered_ofData read
  case append on segment =>
    obtain ⟨p, found, q, appended, ⟨rfl, rfl⟩, rfl⟩ := made
    exact (ordered on p found).append appended
  case appendToken on token =>
    obtain ⟨p, found, q, appended, ⟨rfl, rfl⟩, rfl⟩ := made
    exact (ordered on p found).appendToken appended
  case appendCopy on result segment =>
    obtain ⟨p, found, q, appended, ⟨rfl, rfl⟩, rfl⟩ := made
    exact (ordered on p found).append appended
  case appendTokenCopy on result token =>
    obtain ⟨p, found, q, appended, ⟨rfl, rfl⟩, rfl⟩ := made
    exact (ordered on p found).appendToken appended
  case copy on result =>
    obtain ⟨p, found, ⟨rfl, rfl⟩, rfl⟩ := made
    exact ordered on p found
  case roundTrip on result =>
    obtain ⟨x, found, p, read, ⟨rfl, rfl⟩, rfl⟩ := made
    exact Page.neighboursOrdered_ofData read

/-- A step keeps neighbours in order: where it sets a page, that page is in order, and all other
names keep what they stood for.
-/
theorem PagesOrdered.take {w : Workbench} (ordered : w.PagesOrdered) (step : Step)
    : (w.take step).1.PagesOrdered := by
  unfold Workbench.take
  split
  · rename_i name x a made
    intro other p found
    by_cases same : other = name
    · subst same
      rw [Table.get?_set_self, Option.some.injEq] at found
      subst found
      exact ordered.outcome made
    · rw [Table.get?_set_of_ne x w same] at found
      exact ordered other p found
  · exact ordered
  · exact ordered

/-- A program keeps neighbours in order, by induction on its steps. -/
theorem PagesOrdered.run {w : Workbench} (ordered : w.PagesOrdered) (program : List Step)
    : (w.run program).PagesOrdered := by
  induction program generalizing w with
  | nil => exact ordered
  | cons step rest ih => exact ih (ordered.take step)

/-- Every page that a program reaches is ordered. -/
theorem neighboursOrdered_of_reached {program : List Step} {name : String} {p : Page}
    (reached : Table.get? name (Workbench.run [] program) = some (.page p))
    : p.NeighboursOrdered := by
  have initial : PagesOrdered [] := by
    intro name p found
    simp [Table.get?] at found
  exact initial.run program name p reached

-----------------------------------------------------------------------------------------
-- When every page that a program reaches is in order
-----------------------------------------------------------------------------------------

/-- On a page that a program reaches a catch-all is directly followed by nothing but a marker. All
its segments are in order if and only if nothing but markers comes behind such a marker, and a
catch-all ends its path if and only if nothing routable does. What takes a page out of order is a
segment, other than a marker, that is accepted although the page has a catch-all.
-/
theorem ordered_iff_of_reached (program : List Step) (name : String) (p : Page)
    (reached : Table.get? name (Workbench.run [] program) = some (.page p))
    : p.NeighboursOrdered
      ∧ (p.Ordered ↔ ¬ p.GoesOnWith fun s => s.isMarker = false)
      ∧ (p.urlPath.CatchAllLast ↔ ¬ p.GoesOnWith fun s => s.isRoutable = true)
      ∧ ∀ s q,
          p.append s = .ok q
          → p.Ordered
          → (q.Ordered
              ↔ s.isMarker = true ∨ ∀ earlier ∈ p.segments, earlier.isCatchAll = false) := by
  have neighbours := neighboursOrdered_of_reached reached
  refine ⟨neighbours, neighbours.ordered_iff, neighbours.catchAllLast_iff, ?_⟩
  intro s q appended ordered
  exact ordered.append_iff appended

/-- A token that is refused behind a catch-all is accepted behind its marker, and the page is then
out of order.
-/
theorem not_ordered_of_token_behind_marker
    : let program : List Step :=
        [.new "p" [.group "g"], .appendToken "p" "[...a]", .appendToken "p" "b",
          .append "p" (.marker .page), .appendToken "p" "b"]
      let p : Page := ⟨[.group "g", .catchAll "a", .marker .page, .static "b"]⟩
      Table.get? "p" (Workbench.run [] program) = some (.page p)
      ∧ ¬ p.Ordered
      ∧ ¬ p.urlPath.CatchAllLast := by
  intro program p
  have reached : Table.get? "p" (Workbench.run [] program) = some (.page p) := by rfl
  obtain ⟨_, ordered, path, _⟩ := ordered_iff_of_reached program "p" p reached
  refine ⟨reached, ?_, ?_⟩
  · rw [ordered, not_not]
    exact ⟨[.group "g"], .catchAll "a", .marker .page, [], .static "b", [], rfl, rfl, rfl, rfl⟩
  · rw [path, not_not]
    exact ⟨[.group "g"], .catchAll "a", .marker .page, [], .static "b", [], rfl, rfl, rfl, rfl⟩

/-- Segments are accepted of which a static one comes behind a catch-all and its marker: the page is
out of order, and its path goes on behind the catch-all.
-/
theorem static_behind_closed_catchAll
    : let p : Page := ⟨[.catchAll "a", .marker .page, .static "b"]⟩
      Table.get? "p" (Workbench.run [] [.new "p" p.segments]) = some (.page p)
      ∧ ¬ p.Ordered
      ∧ ¬ p.urlPath.CatchAllLast := by
  intro p
  refine ⟨rfl, ?_, ?_⟩
  · simp [p, Page.Ordered, Segment.MayPrecede, Segment.isCatchAll, Segment.isMarker]
  · intro last
    have early : Segment.catchAll "a" ∈ p.urlPath.segments.dropLast := by decide
    simpa [Segment.isCatchAll] using last _ early

-----------------------------------------------------------------------------------------
-- When a page that a program reaches is read again from its text
-----------------------------------------------------------------------------------------

/-- A page that a program reaches is read again from its text if and only if each of its segments is
read from some token, whatever the names in it are. In every other case the text is refused for its
order, or it is the text of another page.
-/
theorem reparse_iff_of_reached (program : List Step) (name : String) (p : Page)
    (reached : Table.get? name (Workbench.run [] program) = some (.page p))
    : (Page.parse p.render = .ok p
        ↔ ∀ s ∈ p.segments, ∃ token, Segment.parse token = .ok s)
      ∧ ((∃ s ∈ p.segments, ∀ token, Segment.parse token ≠ .ok s)
          → (∃ s before, Page.parse p.render = .error (.invalidAppend s before))
            ∨ ∃ q, Page.parse p.render = .ok q ∧ q ≠ p) := by
  have again := (neighboursOrdered_of_reached reached).parse_render_iff
  refine ⟨again, ?_⟩
  intro unread
  obtain ⟨s, member, noToken⟩ := unread
  have different : Page.parse p.render ≠ .ok p := by
    intro same
    obtain ⟨token, read⟩ := again.mp same s member
    exact noToken token read
  cases result : Page.parse p.render with
  | ok q =>
      refine Or.inr ⟨q, rfl, ?_⟩
      rintro rfl
      exact different result
  | error e =>
      obtain ⟨_, _, _, _, _, _, _, rfl⟩ := Page.parse_eq_error result
      exact Or.inl ⟨_, _, rfl⟩

/-- A page that ends in a catch-all is read again from its text; with a marker behind the catch-all
it is not, since no token is read as a marker.
-/
theorem reparse_before_and_behind_marker
    : let program : List Step :=
        [.new "p" [.group "g"], .appendToken "p" "[...a]", .copy "p" "q",
          .append "q" (.marker .page)]
      let p : Page := ⟨[.group "g", .catchAll "a"]⟩
      let q : Page := ⟨[.group "g", .catchAll "a", .marker .page]⟩
      Table.get? "p" (Workbench.run [] program) = some (.page p)
      ∧ Page.parse p.render = .ok p
      ∧ Table.get? "q" (Workbench.run [] program) = some (.page q)
      ∧ Page.parse q.render ≠ .ok q := by
  intro program p q
  have reachedP : Table.get? "p" (Workbench.run [] program) = some (.page p) := by rfl
  have reachedQ : Table.get? "q" (Workbench.run [] program) = some (.page q) := by rfl
  obtain ⟨again, _⟩ := reparse_iff_of_reached program "p" p reachedP
  obtain ⟨notAgain, _⟩ := reparse_iff_of_reached program "q" q reachedQ
  refine ⟨reachedP, ?_, reachedQ, ?_⟩
  · rw [again]
    intro s member
    simp only [p, List.mem_cons, List.not_mem_nil, or_false] at member
    rcases member with rfl | rfl
    · exact ⟨"(g)", rfl⟩
    · exact ⟨"[...a]", rfl⟩
  · rw [ne_eq, notAgain]
    intro read
    obtain ⟨token, read⟩ := read (.marker .page) (by simp [q])
    obtain ⟨_, _, same⟩ := Segment.parse_eq_ok_iff.mp read
    have unmarked := Segment.isMarker_classify token
    simp [← same, Segment.isMarker] at unmarked

-----------------------------------------------------------------------------------------
-- Pages and their records
-----------------------------------------------------------------------------------------

/-- A page that a program reaches is read again from its record, wherever its markers stand. Any
value is read as a page if and only if it is a record that lists what is read as segments, none but
a marker directly behind a catch-all; of the items only types and names are kept. The first item
that is no segment is the reason for a refusal, whatever the order before it; if there is none, it
is the first segment that is out of order.
-/
theorem page_records_exact
    : (∀ program name p,
        Table.get? name (Workbench.run [] program) = some (.page p)
        → Page.ofData p.toData = .ok p)
      ∧ ∀ d,
          ((∃ p, Page.ofData d = .ok p)
            ↔ ∃ fields items, ∃ segments : List Segment,
                d = .record fields
                ∧ d.field? "segments" = some (.list items)
                ∧ items.map Segment.ofData = segments.map .ok
                ∧ segments.IsChain Segment.MayPrecede)
          ∧ (∀ p,
              Page.ofData d = .ok p
              → ∃ items,
                  d.field? "segments" = some (.list items)
                  ∧ p.toData.field? "segments" = some (.list (items.map Segment.reduced)))
          ∧ ∀ result, Page.ofData d = result ↔ Page.ReadAs d result := by
  refine ⟨?_, ?_⟩
  · intro program name p reached
    exact (neighboursOrdered_of_reached reached).ofData rfl
  · intro d
    refine ⟨?_, ?_, fun _ => Page.ofData_eq_iff⟩
    · constructor
      · intro reading
        obtain ⟨p, read⟩ := reading
        obtain ⟨items, listed, each, ordered⟩ := Page.ofData_eq_ok_iff.mp read
        obtain ⟨fields, rfl⟩ := Data.exists_fields_of_field? listed
        exact ⟨fields, items, p.segments, rfl, listed, each, ordered⟩
      · intro whole
        obtain ⟨_, items, segments, _, listed, each, ordered⟩ := whole
        exact ⟨⟨segments⟩, Page.ofData_eq_ok_iff.mpr ⟨items, listed, each, ordered⟩⟩
    · intro p read
      obtain ⟨items, listed, reduced⟩ := Page.exists_items_of_ofData read
      refine ⟨items, listed, ?_⟩
      rw [reduced]
      rfl

/-- A marker in the middle of a page is read back from its record. An item without a name is the
reason for a refusal although a segment is out of order before it.
-/
theorem page_records_with_faults
    : let p : Page := ⟨[.catchAll "a", .marker .page, .static "b"]⟩
      let nameless : Data := .record [("type", .text "static")]
      let faulty : Data :=
        .record
          [("segments",
            .list [(Segment.catchAll "a").toData, (Segment.static "b").toData, nameless])]
      Table.get? "p" (Workbench.run [] [.new "p" p.segments]) = some (.page p)
      ∧ Page.ofData p.toData = .ok p
      ∧ Page.ofData faulty = .error (.segment .nameNotText) := by
  intro p nameless faulty
  have reached : Table.get? "p" (Workbench.run [] [.new "p" p.segments]) = some (.page p) := by rfl
  obtain ⟨again, exact⟩ := page_records_exact
  obtain ⟨_, _, first⟩ := exact faulty
  refine ⟨reached, again _ "p" p reached, (first _).mpr ?_⟩
  exact @Page.ReadAs.unread faulty [(Segment.catchAll "a").toData, (Segment.static "b").toData] []
    nameless [.catchAll "a", .static "b"] .nameNotText rfl rfl rfl

end DirectoryRoutes.Workbench
