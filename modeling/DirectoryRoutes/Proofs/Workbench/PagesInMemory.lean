import DirectoryRoutes.Proofs.Workbench.StepEffects
import DirectoryRoutes.Workbench.Memory

/-! Pages in memory behave like values. No two names ever refer to one place, so a page that is
changed where it stands changes for one name only; every step in memory then does to what the names
stand for what it does on the workbench of these values, and answers the same.
-/

namespace DirectoryRoutes

def Reference.place? : Reference → Option Nat
  | .page place => some place
  | .path _ => none

namespace Memory

/-- The places to which names refer. -/
def places (names : Table Reference) : List Nat :=
  names.filterMap (·.2.place?)

/-- Names refer to places of pages that have been made, each to its own. -/
structure Separate (m : Memory) : Prop where
  known : ∀ place ∈ places m.names, place < m.pages.length
  apart : (places m.names).Nodup

-----------------------------------------------------------------------------------------
-- What the names stand for when pages are made and changed
-----------------------------------------------------------------------------------------

/-- The places of entries are those of the first one and of the others. -/
theorem places_cons (entry : String × Reference) (rest : Table Reference)
    : places (entry :: rest) = entry.2.place?.toList ++ places rest := by
  cases refers : entry.2.place? <;> simp [places, refers]

/-- What stands at a known place stays there when pages are added. -/
theorem pieceOf_append {pages more : List Page} {r : Reference}
    (known : ∀ place ∈ r.place?, place < pages.length)
    : pieceOf (pages ++ more) r = pieceOf pages r := by
  cases r with
  | page place => simp [pieceOf, pageAt, List.getD, List.getElem?_append_left (known place rfl)]
  | path u => rfl

/-- What stands at a place stays there when another one changes. -/
theorem pieceOf_set_of_ne {pages : List Page} {place : Nat} {q : Page} {r : Reference}
    (other : place ∉ r.place?)
    : pieceOf (pages.set place q) r = pieceOf pages r := by
  cases r with
  | page elsewhere =>
      have different : place ≠ elsewhere := by
        rintro rfl
        exact other rfl
      simp [pieceOf, pageAt, List.getD, List.getElem?_set_ne different]
  | path u => rfl

/-- The place of an entry is among the places. -/
theorem place_mem_places {names : Table Reference} {entry : String × Reference}
    (member : entry ∈ names)
    : ∀ place ∈ entry.2.place?, place ∈ places names :=
  fun _ here => List.mem_filterMap.mpr ⟨entry, member, here⟩

/-- The place of a name is among the places, by induction on the entries. -/
theorem place_mem_places_of_get? {names : Table Reference} {name : String} {place : Nat}
    (found : Table.get? name names = some (.page place))
    : place ∈ places names := by
  induction names with
  | nil => simp [Table.get?] at found
  | cons entry rest ih =>
      by_cases here : entry.1 = name
      · simp only [Table.get?, here, if_true, Option.some.injEq] at found
        exact place_mem_places List.mem_cons_self place (by rw [found]; rfl)
      · simp only [Table.get?, here, if_false] at found
        obtain ⟨other, member, refers⟩ := List.mem_filterMap.mp (ih found)
        exact place_mem_places (List.mem_cons_of_mem entry member) place refers

/-- Pages that are made are seen by no name. -/
theorem view_append {m : Memory} (separate : m.Separate) (more : List Page)
    : view ⟨m.pages ++ more, m.names⟩ = m.view := by
  apply List.map_congr_left
  intro entry member
  have known : ∀ place ∈ entry.2.place?, place < m.pages.length :=
    fun place here => separate.known place (place_mem_places member place here)
  rw [pieceOf_append known]

/-- A page that is changed is seen by the name that refers to its place, and by no other name, by
induction on the names.
-/
theorem view_set {names : Table Reference} {pages : List Page} {on : String} {place : Nat}
    (apart : (places names).Nodup) (known : place < pages.length)
    (found : Table.get? on names = some (.page place)) (q : Page)
    : view ⟨pages.set place q, names⟩ = Table.set on (.page q) (view ⟨pages, names⟩) := by
  have elsewhere {rest : Table Reference} (absent : place ∉ places rest)
      : view ⟨pages.set place q, rest⟩ = view ⟨pages, rest⟩ := by
    apply List.map_congr_left
    intro entry member
    rw [pieceOf_set_of_ne fun here => absent (place_mem_places member place here)]
  induction names with
  | nil => simp [Table.get?] at found
  | cons entry rest ih =>
      rcases entry with ⟨name, r⟩
      rw [places_cons, List.nodup_append] at apart
      obtain ⟨_, later, disjoint⟩ := apart
      by_cases here : name = on
      · simp only [Table.get?, here, if_true, Option.some.injEq] at found
        subst here found
        have absent : place ∉ places rest := by
          intro again
          exact disjoint place (by simp [Reference.place?]) place again rfl
        have changed : pieceOf (pages.set place q) (.page place) = .page q := by
          simp [pieceOf, pageAt, List.getD, known]
        have same := elsewhere absent
        simp only [view, Table.mapValues] at same
        simp [view, Table.mapValues, Table.set, changed, same]
      · simp only [Table.get?, here, if_false] at found
        have other : place ∉ r.place? := fun refers =>
          disjoint place (Option.mem_toList.mpr refers) place (place_mem_places_of_get? found) rfl
        have same := ih later found
        simp only [view, Table.mapValues] at same
        simp [view, Table.mapValues, Table.set, here, pieceOf_set_of_ne other, same]

/-- A name that is given a reference stands for what is referred to. -/
theorem view_named (pages : List Page) (names : Table Reference) (name : String) (r : Reference)
    : view ⟨pages, Table.set name r names⟩
      = Table.set name (pieceOf pages r) (view ⟨pages, names⟩) :=
  (Table.set_mapValues (pieceOf pages) name r names).symm

-----------------------------------------------------------------------------------------
-- Names refer to places of their own
-----------------------------------------------------------------------------------------

/-- A name brings in no place but its own, by induction on the entries. -/
theorem mem_places_set {names : Table Reference} {name : String} {r : Reference} {place : Nat}
    (member : place ∈ places (Table.set name r names))
    : place ∈ r.place? ∨ place ∈ places names := by
  induction names with
  | nil => simpa [Table.set, places_cons, places] using member
  | cons entry rest ih =>
      rw [places_cons]
      by_cases here : entry.1 = name
      · simp only [Table.set, here, if_true, places_cons, List.mem_append,
          Option.mem_toList] at member
        exact member.imp_right (List.mem_append_right _)
      · simp only [Table.set, here, if_false, places_cons, List.mem_append] at member
        rcases member with first | later
        · exact Or.inr (List.mem_append_left _ first)
        · exact (ih later).imp_right (List.mem_append_right _)

/-- Places stay apart if a name is given a new one, by induction on the entries. -/
theorem nodup_places_set {names : Table Reference} {name : String} {r : Reference}
    (apart : (places names).Nodup) (fresh : ∀ place ∈ r.place?, place ∉ places names)
    : (places (Table.set name r names)).Nodup := by
  have alone (r : Reference) : r.place?.toList.Nodup := by
    cases r <;> simp [Reference.place?]
  induction names with
  | nil =>
      rw [Table.set, places_cons]
      simpa [places] using alone r
  | cons entry rest ih =>
      rw [places_cons, List.nodup_append] at apart
      obtain ⟨first, later, disjoint⟩ := apart
      simp only [places_cons, List.mem_append, not_or] at fresh
      by_cases here : entry.1 = name
      · simp only [Table.set, here, if_true, places_cons, List.nodup_append]
        refine ⟨alone r, later, ?_⟩
        rintro place refers _ again rfl
        exact (fresh place (Option.mem_toList.mp refers)).2 again
      · simp only [Table.set, here, if_false, places_cons, List.nodup_append]
        refine ⟨first, ih later fun place refers => (fresh place refers).2, ?_⟩
        rintro place refers _ again rfl
        rcases mem_places_set again with new | old
        · exact (fresh place new).1 refers
        · exact disjoint place refers place old rfl

/-- Names stay separate when pages are added. -/
theorem Separate.append {m : Memory} (separate : m.Separate) (more : List Page)
    : Separate ⟨m.pages ++ more, m.names⟩ where
  known place member := by
    have bound := separate.known place member
    simp only [List.length_append]
    omega
  apart := separate.apart

/-- Names stay separate when a page changes. -/
theorem Separate.set {m : Memory} (separate : m.Separate) (place : Nat) (q : Page)
    : Separate ⟨m.pages.set place q, m.names⟩ where
  known other member := by simpa using separate.known other member
  apart := separate.apart

/-- Names stay separate when one is given a known place that no other has. -/
theorem Separate.named {m : Memory} (separate : m.Separate) (name : String) {r : Reference}
    (known : ∀ place ∈ r.place?, place < m.pages.length)
    (fresh : ∀ place ∈ r.place?, place ∉ places m.names)
    : Separate ⟨m.pages, Table.set name r m.names⟩ where
  known place member := by
    rcases mem_places_set member with new | old
    · exact known place new
    · exact separate.known place old
  apart := nodup_places_set separate.apart fresh

/-- The next place is nobody's, so a name may be given to the page that is made there. -/
theorem Separate.made {m : Memory} (separate : m.Separate) (name : String) (p : Page)
    : Separate ⟨m.pages ++ [p], Table.set name (.page m.pages.length) m.names⟩ := by
  apply (separate.append [p]).named name
  · rintro place ⟨⟩
    simp
  · rintro place ⟨⟩ member
    exact Nat.lt_irrefl _ (separate.known _ member)

-----------------------------------------------------------------------------------------
-- What work on pages makes
-----------------------------------------------------------------------------------------

section

variable {ε ε' α β : Type} {pages after : List Page}

/-- After a success the next work goes on with the pages as they are then. -/
theorem run_bind_of_ok {work : Work ε α} {a : α} (done : work.run pages = .ok a after)
    (next : α → Work ε β)
    : (work >>= next).run pages = (next a).run after := by
  simp only [EStateM.run, bind, EStateM.bind] at done ⊢
  rw [done]

/-- After a failure nothing more is done. -/
theorem run_bind_of_error {work : Work ε α} {e : ε} (failed : work.run pages = .error e after)
    (next : α → Work ε β)
    : (work >>= next).run pages = .error e after := by
  simp only [EStateM.run, bind, EStateM.bind] at failed ⊢
  rw [failed]

/-- What only reads leaves the pages. -/
theorem run_reading (pages : List Page) (f : List Page → Except ε α)
    : (reading f).run pages
      = match f pages with
        | .ok a => .ok a pages
        | .error e => .error e pages := by
  show (MonadExcept.ofExcept (f pages) : Work ε α).run pages = _
  cases f pages <;> rfl

/-- What is read decides how the work goes on, or it is the reason for its end. -/
theorem run_reading_bind (pages : List Page) (f : List Page → Except ε α) (next : α → Work ε β)
    : (reading f >>= next).run pages
      = match f pages with
        | .ok a => (next a).run pages
        | .error e => .error e pages := by
  have read := run_reading pages f
  cases found : f pages with
  | ok a =>
      simp only [found] at read
      exact run_bind_of_ok read next
  | error e =>
      simp only [found] at read
      exact run_bind_of_error read next

/-- Another name for the failures leaves what is done. -/
theorem run_adaptExcept (pages : List Page) (work : Work ε α) (label : ε → ε')
    : (work.adaptExcept label).run pages
      = match work.run pages with
        | .ok a after => .ok a after
        | .error e after => .error (label e) after := by
  simp only [EStateM.run, EStateM.adaptExcept]
  cases work pages <;> rfl

end

/-- The work puts a page at the next place, or it fails and leaves the pages before it as they were.
-/
def Makes {ε : Type} (pages : List Page) (work : Work ε Nat) : Except ε Page → Prop
  | .ok q => work.run pages = .ok pages.length (pages ++ [q])
  | .error e => ∃ left, work.run pages = .error e (pages ++ left)

/-- A change that succeeds replaces the page at its place, and one that fails leaves the pages. -/
theorem run_change (pages : List Page) (place : Nat) (f : Page → Except SegmentError Page)
    : (change place f).run pages
      = match f (pageAt pages place) with
        | .ok q => .ok () (pages.set place q)
        | .error e => .error e pages := by
  rw [change, run_reading_bind]
  cases f (pageAt pages place) <;> rfl

/-- A change of the page that was made last replaces this page alone. -/
theorem run_change_last (pages : List Page) (p : Page) (f : Page → Except SegmentError Page)
    : (change pages.length f).run (pages ++ [p])
      = match f p with
        | .ok q => .ok () (pages ++ [q])
        | .error e => .error e (pages ++ [p]) := by
  simp [run_change, pageAt]

/-- Items are added to the page at the next place, up to the first one that is refused, by induction
on the items.
-/
theorem run_forM_change {α : Type} (add : Page → α → Except SegmentError Page) (items : List α)
    (pages : List Page) (p : Page)
    : match items.foldlM add p with
      | .ok q =>
          (forM items fun item => change pages.length (add · item)).run (pages ++ [p])
            = .ok () (pages ++ [q])
      | .error e =>
          ∃ left,
            (forM items fun item => change pages.length (add · item)).run (pages ++ [p])
              = .error e (pages ++ left) := by
  induction items generalizing p with
  | nil => rfl
  | cons item rest ih =>
      have first := run_change_last pages p (add · item)
      rw [List.forM_cons, List.foldlM_cons]
      cases added : add p item with
      | error e =>
          simp only [added] at first
          exact ⟨[p], run_bind_of_error first _⟩
      | ok q =>
          simp only [added] at first
          rw [run_bind_of_ok first]
          exact ih q

/-- Pages are built in place, by induction on the items. -/
theorem makes_build {α : Type} (add : Page → α → Except SegmentError Page) (items : List α)
    (pages : List Page)
    : Makes pages (build add items) (items.foldlM add .empty) := by
  have made : (make .empty : Work SegmentError Nat).run pages
      = .ok pages.length (pages ++ [.empty]) :=
    rfl
  have added := run_forM_change add items pages .empty
  unfold build Makes
  rw [run_bind_of_ok made]
  cases result : items.foldlM add .empty with
  | ok q =>
      simp only [result] at added
      exact run_bind_of_ok added _
  | error e =>
      simp only [result] at added
      obtain ⟨left, failed⟩ := added
      exact ⟨left, run_bind_of_error failed _⟩

/-- A copy is made at the next place. -/
theorem makes_copyOf {ε : Type} (pages : List Page) (place : Nat)
    : Makes pages (copyOf place : Work ε Nat) (.ok (pageAt pages place)) :=
  rfl

/-- A changed copy is made at the next place, or none if the change fails. -/
theorem makes_changedCopy (pages : List Page) (place : Nat) (f : Page → Except SegmentError Page)
    : Makes pages (changedCopy place f) (f (pageAt pages place)) := by
  have copied := makes_copyOf (ε := SegmentError) pages place
  have changed := run_change_last pages (pageAt pages place) f
  unfold changedCopy Makes
  rw [run_bind_of_ok copied]
  cases result : f (pageAt pages place) with
  | ok q =>
      simp only [result] at changed
      exact run_bind_of_ok changed _
  | error e =>
      simp only [result] at changed
      exact ⟨_, run_bind_of_error changed _⟩

/-- Another name for the failures leaves what is made. -/
theorem Makes.adaptExcept {ε ε' : Type} {pages : List Page} {work : Work ε Nat}
    {result : Except ε Page} (makes : Makes pages work result) (label : ε → ε')
    : Makes pages (work.adaptExcept label) (result.mapError label) := by
  cases result with
  | ok q =>
      have made : work.run pages = .ok pages.length (pages ++ [q]) := makes
      simp only [Makes, Except.mapError, run_adaptExcept, made]
  | error e =>
      obtain ⟨left, failed⟩ := makes
      exact ⟨left, by simp only [run_adaptExcept, failed]⟩

/-- Work that first reads makes what it makes of what is read. -/
theorem makes_of_reading {ε α : Type} {pages : List Page} {f : List Page → Except ε α}
    {work : α → Work ε Nat} {result : α → Except ε Page}
    (makes : ∀ a, Makes pages (work a) (result a))
    : Makes pages (reading f >>= work) (f pages >>= result) := by
  have read := run_reading_bind pages f work
  cases found : f pages with
  | ok a =>
      rw [found] at read
      unfold Makes
      rw [read]
      exact makes a
  | error e =>
      rw [found] at read
      exact ⟨[], by rw [read, List.append_nil]⟩

/-- A document is read item by item, and then the order of its segments is checked. -/
theorem ofData_eq_bind (d : Data)
    : Page.ofData d
      = listedSegments d >>= fun segments => (Page.ofSegments segments).mapError .order := by
  unfold Page.ofData listedSegments
  cases d with
  | record fields =>
      dsimp only
      cases Data.field? "segments" (.record fields) with
      | none => rfl
      | some value => cases value <;> rfl
  | _ => rfl

/-- A page of a document is made at the next place. -/
theorem makes_buildOfData (d : Data) (pages : List Page)
    : Makes pages (buildOfData d) (Page.ofData d) := by
  rw [ofData_eq_bind]
  apply makes_of_reading
  intro segments
  exact (makes_build Page.append segments pages).adaptExcept PageRecordError.order

-----------------------------------------------------------------------------------------
-- Every step does in memory what it does to values
-----------------------------------------------------------------------------------------

/-- The step does to what the names stand for what it does to these values, and answers the same. -/
structure Agrees (m : Memory) (step : Step) : Prop where
  view : (m.take step).1.view = (m.view.take step).1
  answer : (m.take step).2 = (m.view.take step).2
  separate : (m.take step).1.Separate

/-- A step agrees if both models say what it does, and say the same. -/
theorem agrees_of_eq {m after : Memory} {step : Step} {w : Workbench}
    {result : Except StepError Answer}
    (inMemory : m.take step = (after, result)) (onValues : m.view.take step = (w, result))
    (same : after.view = w) (separate : after.Separate)
    : m.Agrees step where
  view := by rw [inMemory, onValues, same]
  answer := by rw [inMemory, onValues]
  separate := by rwa [inMemory]

/-- A step that makes a page for a name agrees, by cases on whether the making succeeds. -/
theorem agrees_of_makes {m : Memory} {step : Step} {name : String} {work : Work StepError Nat}
    {result : Except StepError Page} (separate : m.Separate)
    (performed : perform m.names step = naming name work)
    (outcome : m.view.outcome step = result >>= fun q => pure (some (name, .page q), .done))
    (makes : Makes m.pages work result)
    : m.Agrees step := by
  cases result with
  | ok q =>
      have made : (naming name work).run m.pages
          = .ok (some (name, .page m.pages.length), .done) (m.pages ++ [q]) :=
        run_bind_of_ok makes _
      refine agrees_of_eq (by rw [take, performed, made]) (by rw [Workbench.take, outcome]; rfl) ?_
        (separate.made name q)
      rw [view_named, view_append separate]
      simp [pieceOf, pageAt]
  | error e =>
      obtain ⟨left, failed⟩ := makes
      have unnamed : (naming name work).run m.pages = .error e (m.pages ++ left) :=
        run_bind_of_error failed _
      exact agrees_of_eq (by rw [take, performed, unnamed]) (by rw [Workbench.take, outcome]; rfl)
        (view_append separate left) (separate.append left)

/-- A place is found by a name that refers to it. -/
theorem placeOf_eq_ok {names : Table Reference} {name operation : String} {place : Nat}
    (located : placeOf names name operation = .ok place)
    : Table.get? name names = some (.page place) := by
  unfold placeOf at located
  split at located
  · cases located
    assumption
  · cases located
  · cases located

/-- The page of a name is the one at its place, by cases on what the name refers to. -/
theorem page_view (m : Memory) (name operation : String)
    : m.view.page name operation
      = placeOf m.names name operation >>= fun place => pure (pageAt m.pages place) := by
  unfold Workbench.page Workbench.piece placeOf
  rw [view, Table.get?_mapValues]
  cases Table.get? name m.names with
  | none => rfl
  | some r => cases r <;> rfl

/-- The page of a name is changed where it stands, which no other name sees. -/
theorem agrees_of_extends {m : Memory} {step : Step} {on operation : String}
    {f : Page → Except SegmentError Page} (separate : m.Separate)
    (performed : perform m.names step = extend m.names on operation f)
    (changes : Workbench.Changes m.view step on on operation f)
    : m.Agrees step := by
  cases located : placeOf m.names on operation with
  | error e =>
      have unlocated : m.view.outcome step = .error e := by
        rw [changes, page_view, located]
        rfl
      exact agrees_of_eq (by rw [take, performed, extend, run_reading_bind, located])
        (by rw [Workbench.take, unlocated]) rfl separate
  | ok place =>
      have found := placeOf_eq_ok located
      have seen : Table.get? on m.view = some (.page (pageAt m.pages place)) := by
        rw [view, Table.get?_mapValues, found]
        rfl
      have known : place < m.pages.length := separate.known place (place_mem_places_of_get? found)
      have changed := run_adaptExcept m.pages (change place f) StepError.segment
      have onValues := changes.take seen
      rw [run_change] at changed
      cases result : f (pageAt m.pages place) with
      | error e =>
          simp only [result] at changed onValues
          have inMemory : m.take step = (m, .error (.segment e)) := by
            rw [take, performed, extend, run_reading_bind, located]
            simp only [run_bind_of_error changed]
          exact agrees_of_eq inMemory onValues rfl separate
      | ok q =>
          simp only [result] at changed onValues
          have inMemory : m.take step = (⟨m.pages.set place q, m.names⟩, .ok .done) := by
            rw [take, performed, extend, run_reading_bind, located]
            simp only [run_bind_of_ok changed]
            rfl
          exact agrees_of_eq inMemory onValues (view_set separate.apart known found q)
            (separate.set place q)

/-- What is only read gives at most a path to a name. -/
theorem agrees_of_reading {m : Memory} {step : Step} {α : Type} (separate : m.Separate)
    (f : List Page → Except StepError α) (named : α → Option (String × UrlPath))
    (answer : α → Answer)
    (performed
      : perform m.names step
        = reading f >>= fun a => pure ((named a).map fun n => (n.1, .path n.2), answer a))
    (outcome
      : m.view.outcome step
        = f m.pages >>= fun a => pure ((named a).map fun n => (n.1, .path n.2), answer a))
    : m.Agrees step := by
  cases found : f m.pages with
  | error e =>
      rw [found] at outcome
      exact agrees_of_eq (by rw [take, performed, run_reading_bind, found])
        (by rw [Workbench.take, outcome]; rfl) rfl separate
  | ok a =>
      rw [found] at outcome
      have read : (perform m.names step).run m.pages
          = .ok ((named a).map fun n => (n.1, Reference.path n.2), answer a) m.pages := by
        rw [performed, run_reading_bind, found]
        rfl
      cases target : named a with
      | none =>
          have inMemory : m.take step = (m, .ok (answer a)) := by
            rw [take, read, target]
            rfl
          have onValues : m.view.take step = (m.view, .ok (answer a)) := by
            rw [Workbench.take, outcome]
            simp only [bind, Except.bind, pure, Except.pure, target, Option.map_none]
          exact agrees_of_eq inMemory onValues rfl separate
      | some n =>
          have inMemory : m.take step
              = (⟨m.pages, Table.set n.1 (.path n.2) m.names⟩, .ok (answer a)) := by
            rw [take, read, target]
            rfl
          have onValues : m.view.take step
              = (Table.set n.1 (.path n.2) m.view, .ok (answer a)) := by
            rw [Workbench.take, outcome]
            simp only [bind, Except.bind, pure, Except.pure, target, Option.map_some]
          have placeless : ∀ place, place ∉ (Reference.path n.2).place? := by
            rintro _ ⟨⟩
          exact agrees_of_eq inMemory onValues (view_named m.pages m.names n.1 (.path n.2))
            (separate.named n.1 (fun _ here => absurd here (placeless _))
              fun _ here => absurd here (placeless _))

/-- A changed copy of the page of a name is made at the next place. -/
theorem makes_extendCopy (m : Memory) (on operation : String)
    (f : Page → Except SegmentError Page)
    : Makes m.pages (extendCopy m.names on operation f)
        (m.view.page on operation >>= fun p => (f p).mapError .segment) := by
  rw [page_view, bind_assoc]
  apply makes_of_reading
  intro place
  exact (makes_changedCopy m.pages place f).adaptExcept StepError.segment

/-- Every step agrees, by cases on the step: it makes a page, it changes one, or it only reads. -/
theorem Separate.agrees {m : Memory} (separate : m.Separate) (step : Step) : m.Agrees step := by
  cases step with
  | new on segments =>
      exact agrees_of_makes separate rfl rfl
        ((makes_build Page.append segments m.pages).adaptExcept StepError.segment)
  | parse on path =>
      have built := makes_build Page.appendToken (Text.components path) m.pages
      exact agrees_of_makes separate rfl rfl (built.adaptExcept StepError.segment)
  | ofData on record =>
      exact agrees_of_makes separate rfl rfl
        ((makes_buildOfData record m.pages).adaptExcept StepError.record)
  | append on segment =>
      exact agrees_of_extends separate rfl (Workbench.changes_append m.view on segment)
  | appendToken on token =>
      exact agrees_of_extends separate rfl (Workbench.changes_appendToken m.view on token)
  | appendCopy on result segment =>
      refine agrees_of_makes separate rfl ?_ (makes_extendCopy m on _ _)
      rw [bind_assoc]
      rfl
  | appendTokenCopy on result token =>
      refine agrees_of_makes separate rfl ?_ (makes_extendCopy m on _ _)
      rw [bind_assoc]
      rfl
  | copy on result =>
      have makes : Makes m.pages
          (reading (fun _ => placeOf m.names on "copy") >>= fun place => copyOf place)
          (m.view.page on "copy") := by
        rw [page_view]
        apply makes_of_reading
        intro place
        exact makes_copyOf m.pages place
      exact agrees_of_makes separate rfl rfl makes
  | roundTrip on result =>
      have makes : Makes m.pages
          (reading (fun pages => (view ⟨pages, m.names⟩).piece on)
            >>= fun x => (buildOfData x.toData).adaptExcept .record)
          (m.view.piece on >>= fun x => (Page.ofData x.toData).mapError .record) := by
        apply makes_of_reading
        intro x
        exact (makes_buildOfData x.toData m.pages).adaptExcept StepError.record
      refine agrees_of_makes separate rfl ?_ makes
      rw [bind_assoc]
      rfl
  | derivePath on result =>
      exact agrees_of_reading separate (fun pages => (view ⟨pages, m.names⟩).page on "to_path")
        (fun p => some (result, p.urlPath)) (fun _ => .done) rfl rfl
  | filterPath on result =>
      exact agrees_of_reading separate (fun pages => (view ⟨pages, m.names⟩).piece on)
        (fun x => some (result, .ofSegments x.segments)) (fun _ => .done) rfl rfl
  | ask on query =>
      exact agrees_of_reading separate (fun pages => (view ⟨pages, m.names⟩).answer on query)
        (fun _ => none) id rfl rfl

/-- A whole program does in memory what it does to values, by induction on its steps. -/
theorem Separate.run {m : Memory} (separate : m.Separate) (program : List Step)
    : (m.run program).Separate ∧ (m.run program).view = m.view.run program := by
  induction program generalizing m with
  | nil => exact ⟨separate, rfl⟩
  | cons step rest ih =>
      have agrees := separate.agrees step
      have onwards := ih agrees.separate
      rw [agrees.view] at onwards
      exact onwards

/-- No two names refer to one place where there is no name. -/
theorem separate_empty : Separate {} where
  known place member := by simp [places] at member
  apart := List.nodup_nil

end Memory

end DirectoryRoutes
