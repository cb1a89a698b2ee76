import DirectoryRoutes.Proofs.Workbench.IsolatedSteps

/-! Pages that are built in one step or in many. A program that builds a page stops at the first
step that fails; whether it gives all it has at once or piece by piece, to a page in memory or to
copies of it, the same page comes out or the same error.
-/

namespace DirectoryRoutes

/-- The step makes a page, which is given a name. -/
def Workbench.MakesPage (w : Workbench) (step : Step) (name : String)
    (result : Except StepError Page)
    : Prop :=
  w.outcome step = do
    let q ← result
    pure (some (name, .page q), .done)

namespace Memory

-----------------------------------------------------------------------------------------
-- Programs that stop at a failure
-----------------------------------------------------------------------------------------

/-- Takes steps up to the first one that fails. -/
def attempt (m : Memory) : List Step → Except StepError Memory
  | [] => .ok m
  | step :: rest => do
      let _ ← (m.take step).2
      attempt (m.take step).1 rest

/-- What a name stands for at the end of a program, if no step of it fails. -/
def built (m : Memory) (program : List Step) (name : String) : Except StepError (Option Piece) :=
  (m.attempt program).map (·.value? name)

section

variable {m : Memory} {name operation : String} {making changing : Step}
variable {result : Except StepError Page}

/-- A step that makes a page gives it to its name, or fails as the making does. -/
theorem Separate.take_of_makesPage (separate : m.Separate)
    (makes : Workbench.MakesPage m.view making name result)
    : (m.take making).2 = (result >>= fun _ => pure .done)
      ∧ ∀ q, result = .ok q → (m.take making).1.value? name = some (.page q) := by
  rw [(separate.agrees making).answer, separate.value?_take]
  unfold Workbench.take
  rw [makes]
  cases result with
  | error e => exact ⟨rfl, fun _ made => by cases made⟩
  | ok q =>
      refine ⟨rfl, ?_⟩
      intro q' made
      cases made
      exact Table.get?_set_self name _ m.view

variable {α : Type} {step : α → Step} {add : Page → α → Except SegmentError Page}

/-- A page is added to once, under its own name or under that of a copy. -/
theorem Separate.built_change (separate : m.Separate) {on : String}
    {f : Page → Except SegmentError Page}
    (changes : Workbench.Changes m.view changing on name operation f) {p : Page}
    (found : m.value? on = some (.page p))
    : m.built [changing] name = ((f p).mapError .segment).map fun q => some (.page q) := by
  have taken := separate.take_of_changes changes found
  rw [built, attempt, taken.1]
  cases changed : f p with
  | error e => rfl
  | ok q => exact congrArg Except.ok (taken.2 q changed)

/-- Items are added to the page of a name up to the first one that is refused, by induction on the
items.
-/
theorem Separate.built_changes (separate : m.Separate)
    (changes : ∀ w item, Workbench.Changes w (step item) name name operation (add · item))
    (items : List α) {p : Page} (found : m.value? name = some (.page p))
    : m.built (items.map step) name
      = ((items.foldlM add p).mapError .segment).map fun q => some (.page q) := by
  induction items generalizing m p with
  | nil => simp [built, attempt, Except.map, Except.mapError, pure, Except.pure, found]
  | cons item rest ih =>
      have taken := separate.take_of_changes (changes m.view item) found
      rw [built, List.map_cons, attempt, List.foldlM_cons, taken.1]
      cases added : add p item with
      | error e => rfl
      | ok q => exact ih (separate.agrees _).separate (taken.2 q added)

/-- A page is made, and the rest of the program goes on with it. -/
theorem Separate.built_making (separate : m.Separate)
    (makes : Workbench.MakesPage m.view making name result)
    {rest : List Step} {target : String} {further : Page → Except StepError (Option Piece)}
    (goesOn
      : ∀ {m' : Memory} {p},
          m'.Separate
          → m'.value? name = some (.page p)
          → m'.built rest target = further p)
    : m.built (making :: rest) target = result >>= further := by
  have taken := separate.take_of_makesPage makes
  rw [built, attempt, taken.1]
  cases made : result with
  | error e => rfl
  | ok p => exact goesOn (separate.agrees making).separate (taken.2 p made)

/-- A program of one such step builds the page that the step makes. -/
theorem Separate.built_singleton (separate : m.Separate)
    (makes : Workbench.MakesPage m.view making name result)
    : m.built [making] name = result.map fun q => some (.page q) :=
  separate.built_making makes fun _ found => congrArg Except.ok found

end

end Memory

-----------------------------------------------------------------------------------------
-- Pages of segments
-----------------------------------------------------------------------------------------

/-- The ways to put segments together. -/
inductive Assembly where
  /-- All at once. -/
  | whole
  /-- One after another, to one page. -/
  | inPlace
  /-- One after another, each to a copy of the page before. -/
  | byCopies
  /-- All at once, from their records. -/
  | fromRecord

def Assembly.program (name : String) (segments : List Segment) : Assembly → List Step
  | whole => [.new name segments]
  | inPlace => .new name [] :: segments.map (.append name)
  | byCopies => .new name [] :: segments.map (.appendCopy name name)
  | fromRecord =>
      [.ofData name (.record [("segments", .list (segments.map Segment.toData))])]

/-- The error about segments for which a step fails, on its own or as the reason why a record is no
page.
-/
def StepError.raised? : StepError → Option SegmentError
  | .segment reason => some reason
  | .record (.order reason) => some reason
  | _ => none

/-- The records of segments are read as the segments, and their order is checked. -/
theorem Page.ofData_records (segments : List Segment)
    : ofData (.record [("segments", .list (segments.map Segment.toData))])
      = (ofSegments segments).mapError .order := by
  have read : (segments.map Segment.toData).mapM Segment.ofData = .ok segments := by
    simp [mapM_eq_ok_iff]
  rw [ofData_of_listed rfl, read]
  rfl

namespace Memory

variable {m : Memory}

/-- All ways put segments together as they are put together on a page of their own. -/
theorem Separate.built_assembly (separate : m.Separate) (name : String) (segments : List Segment)
    (way : Assembly)
    : (m.built (way.program name segments) name).mapError StepError.raised?
      = ((Page.ofSegments segments).mapError some).map fun q => some (.page q) := by
  have added {step : Segment → Step} {operation : String}
      (changes : ∀ w s, Workbench.Changes w (step s) name name operation (·.append s))
      : m.built (.new name [] :: segments.map step) name
        = ((Page.ofSegments segments).mapError .segment).map fun q => some (.page q) := by
    have made : Workbench.MakesPage m.view (.new name []) name (.ok .empty) := rfl
    exact separate.built_making made fun other found => other.built_changes changes segments found
  cases way with
  | whole =>
      have built : m.built [.new name segments] name
          = ((Page.ofSegments segments).mapError .segment).map fun q => some (.page q) :=
        separate.built_singleton rfl
      rw [Assembly.program, built]
      cases Page.ofSegments segments <;> rfl
  | inPlace =>
      rw [Assembly.program, added fun w => Workbench.changes_append w name]
      cases Page.ofSegments segments <;> rfl
  | byCopies =>
      rw [Assembly.program, added fun w => Workbench.changes_appendCopy w name name]
      cases Page.ofSegments segments <;> rfl
  | fromRecord =>
      have built (record : Data)
          : m.built [.ofData name record] name
            = ((Page.ofData record).mapError .record).map fun q => some (.page q) :=
        separate.built_singleton rfl
      rw [Assembly.program, built, Page.ofData_records]
      cases Page.ofSegments segments <;> rfl

/-- Wherever and in whatever way segments are put together, they make a page if and only if nothing
but a marker directly follows a catch-all, and the page then has exactly these segments. Otherwise
the first one that is out of order is the reason. All ways come to the same.
-/
theorem built_assembly_exact (earlier : List Step) (name : String) (segments : List Segment)
    (way : Assembly)
    : let m := run {} earlier
      let result := m.built (way.program name segments) name
      ((∃ x, result = .ok x) ↔ segments.IsChain Segment.MayPrecede)
      ∧ (∀ x, result = .ok x → x = some (.page ⟨segments⟩))
      ∧ (∀ e,
          result = .error e
          → ∃ before catcher next after,
              segments = before ++ catcher :: next :: after
              ∧ (before ++ [catcher]).IsChain Segment.MayPrecede
              ∧ catcher.isCatchAll = true
              ∧ next.isMarker = false
              ∧ e.raised? = some (.invalidAppend next (before ++ [catcher])))
      ∧ ∀ other : Assembly,
          (m.built (other.program name segments) name).mapError StepError.raised?
          = result.mapError StepError.raised? := by
  intro m result
  have separate : m.Separate := (separate_empty.run earlier).1
  have together (way : Assembly) := separate.built_assembly name segments way
  have same : result.mapError StepError.raised?
      = ((Page.ofSegments segments).mapError some).map fun q => some (.page q) :=
    together way
  have alike (other : Assembly)
      : (m.built (other.program name segments) name).mapError StepError.raised?
        = result.mapError StepError.raised? :=
    (together other).trans same.symm
  cases put : Page.ofSegments segments with
  | ok q =>
      rw [put] at same
      have made : result = .ok (some (.page q)) := mapError_eq_ok_iff.mp same
      obtain ⟨ordered, rfl⟩ := Page.ofSegments_eq_ok_iff.mp put
      refine ⟨⟨fun _ => ordered, fun _ => ⟨_, made⟩⟩, ?_, ?_, alike⟩
      · intro x found
        exact Except.ok.inj (found.symm.trans made)
      · intro e failed
        cases failed.symm.trans made
  | error reason =>
      rw [put] at same
      obtain ⟨raised, failed, blamed⟩ :
          ∃ e, result = .error e ∧ e.raised? = some reason :=
        mapError_eq_error_iff.mp same
      refine ⟨⟨?_, ?_⟩, ?_, ?_, alike⟩
      · intro made
        obtain ⟨x, made⟩ := made
        cases made.symm.trans failed
      · intro ordered
        cases put.symm.trans (Page.ofSegments_eq_ok_iff.mpr ⟨ordered, rfl⟩)
      · intro x made
        cases made.symm.trans failed
      · intro e other
        obtain ⟨before, catcher, next, after, split, ordered, catching, unmarked, rfl⟩ :=
          Page.ofSegments_eq_error_iff.mp put
        cases failed.symm.trans other
        exact ⟨before, catcher, next, after, split, ordered, catching, unmarked, blamed⟩

example
    : (built {} (Assembly.byCopies.program "page" [.catchAll "a", .static "b", .static "c"])
        "page").mapError StepError.raised?
      = .error (some (.invalidAppend (.static "b") [.catchAll "a"])) := by
  rfl

end Memory

-----------------------------------------------------------------------------------------
-- Pages of paths
-----------------------------------------------------------------------------------------

/-- What is behind a separator is added to the page of what is before it. -/
theorem Page.parse_append (left right : String)
    : parse (left ++ "/" ++ right)
      = parse left >>= fun p => (Text.components right).foldlM appendToken p := by
  rw [parse, Text.components_append, ofTokens, List.foldlM_append]
  rfl

namespace Memory

variable {m : Memory}

/-- A path builds the page that is read from it. -/
theorem Separate.built_parse (separate : m.Separate) (name path : String)
    : m.built [.parse name path] name
      = ((Page.parse path).mapError .segment).map fun q => some (.page q) :=
  separate.built_singleton rfl

/-- A path is read in one go, or up to any separator in it and then component by component: the same
page comes out or the same error. What cannot be read up to there is read no further.
-/
theorem built_parse_append (earlier : List Step) (name left right : String)
    : let m := run {} earlier
      let whole := m.built [.parse name (left ++ "/" ++ right)] name
      whole
        = ((Page.parse (left ++ "/" ++ right)).mapError .segment).map (fun q => some (.page q))
      ∧ m.built (.parse name left :: (Text.components right).map (.appendToken name)) name = whole
      ∧ (∀ e, m.built [.parse name left] name = .error e → whole = .error e)
      ∧ ∀ result token,
          '/' ∉ token.toList
          → m.built [.parse name left, .appendTokenCopy name result token] result
            = m.built [.parse result (left ++ "/" ++ token)] result := by
  intro m whole
  have separate : m.Separate := (separate_empty.run earlier).1
  have read : whole = _ := separate.built_parse name (left ++ "/" ++ right)
  have opened : Workbench.MakesPage m.view (.parse name left) name
      ((Page.parse left).mapError .segment) :=
    rfl
  refine ⟨read, ?_, ?_, ?_⟩
  · have extended := separate.built_making opened fun other found =>
      other.built_changes (Workbench.changes_appendToken · name) (Text.components right) found
    rw [extended, read, Page.parse_append]
    cases Page.parse left <;> rfl
  · intro e failed
    rw [separate.built_parse] at failed
    rw [read, Page.parse_append]
    cases first : Page.parse left with
    | ok p =>
        rw [first] at failed
        cases failed
    | error reason =>
        rw [first] at failed
        exact failed
  · intro result token plain
    have extended := separate.built_making opened fun other found =>
      other.built_change (Workbench.changes_appendTokenCopy _ name result token) found
    rw [extended, separate.built_parse, Page.parse_append, Text.components_of_not_mem plain]
    simp only [List.foldlM_cons, List.foldlM_nil, bind_pure]
    cases Page.parse left <;> rfl

end Memory

end DirectoryRoutes
