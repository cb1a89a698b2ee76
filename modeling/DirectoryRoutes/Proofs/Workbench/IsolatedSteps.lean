import DirectoryRoutes.Proofs.Workbench.PagesInMemory

/-! Steps on pages that are changed where they stand. A step that fails changes the value of no
name, and one that succeeds changes the value of one name at most: copies of a page and paths of it
keep what they were made of.
-/

namespace DirectoryRoutes

/-- A token adds the segment that it is read as, and an empty one none. -/
theorem Page.eq_of_appendToken {p q : Page} {token : String}
    (appended : p.appendToken token = .ok q)
    : q = ⟨p.segments ++ if token = "" then [] else [Segment.classify token]⟩ := by
  unfold Page.appendToken at appended
  split at appended
  · rename_i empty
    cases appended
    simp [empty]
  · rename_i nonempty
    obtain ⟨s, parsed, added⟩ := bind_eq_ok_iff.mp appended
    obtain ⟨_, _, rfl⟩ := Segment.parse_eq_ok_iff.mp parsed
    rw [(Page.append_eq_ok_iff.mp added).2, if_neg nonempty]

namespace Memory

/-- What a name stands for. -/
def value? (m : Memory) (name : String) : Option Piece :=
  Table.get? name m.view

variable {m : Memory}

/-- A step does to the values of names what it does to values. -/
theorem Separate.value?_take (separate : m.Separate) (step : Step) (name : String)
    : (m.take step).1.value? name = Table.get? name (m.view.take step).1 := by
  rw [value?, (separate.agrees step).view]

/-- A step that fails leaves the values of all names. -/
theorem Separate.value?_take_of_error (separate : m.Separate) {step : Step} {e : StepError}
    (failed : (m.take step).2 = .error e) (name : String)
    : (m.take step).1.value? name = m.value? name := by
  rw [(separate.agrees step).answer] at failed
  rw [separate.value?_take, Workbench.take_of_error failed, value?]

/-- Steps that give values to other names leave the value of a name. -/
theorem Separate.value?_run_of_ne (separate : m.Separate) {later : List Step} {name : String}
    (others : ∀ step ∈ later, step.destination? ≠ some name)
    : (m.run later).value? name = m.value? name := by
  rw [value?, (separate.run later).2, Workbench.get?_run_of_ne others, value?]

/-- The name of a page that was made keeps the page until a step gives it another one. -/
theorem Separate.value?_run_take (separate : m.Separate) {step : Step} {later : List Step}
    {name : String} {x : Piece} {a : Answer}
    (outcome : m.view.outcome step = .ok (some (name, x), a))
    (others : ∀ step ∈ later, step.destination? ≠ some name)
    : ((m.take step).1.run later).value? name = some x := by
  rw [(separate.agrees step).separate.value?_run_of_ne others, separate.value?_take]
  unfold Workbench.take
  rw [outcome]
  exact Table.get?_set_self name x m.view

-----------------------------------------------------------------------------------------
-- Segments that are added, to a page or to a copy of it
-----------------------------------------------------------------------------------------

section

variable {step : Step} {on result operation : String} {f : Page → Except SegmentError Page}

/-- A step that changes a page gives the changed page to its name, or fails as the change does. -/
theorem Separate.take_of_changes (separate : m.Separate)
    (changes : Workbench.Changes m.view step on result operation f) {p : Page}
    (found : m.value? on = some (.page p))
    : (m.take step).2 = ((f p).mapError .segment >>= fun _ => pure .done)
      ∧ ∀ q, f p = .ok q → (m.take step).1.value? result = some (.page q) := by
  have taken := changes.take found
  constructor
  · rw [(separate.agrees step).answer, taken]
    cases f p <;> rfl
  · intro q changed
    rw [separate.value?_take, taken, changed]
    exact Table.get?_set_self result _ m.view

/-- A change that succeeds is one of a page. -/
theorem Separate.exists_of_changes (separate : m.Separate)
    (changes : Workbench.Changes m.view step on result operation f) {a : Answer}
    (done : (m.take step).2 = .ok a)
    : ∃ p q,
        m.value? on = some (.page p)
        ∧ f p = .ok q
        ∧ (m.take step).1.value? result = some (.page q) := by
  rw [(separate.agrees step).answer] at done
  obtain ⟨p, found⟩ := changes.exists_page done
  have taken := separate.take_of_changes changes found
  rw [(separate.agrees step).answer, done] at taken
  cases changed : f p with
  | error e =>
      rw [changed] at taken
      cases taken.1
  | ok q => exact ⟨p, q, found, changed, taken.2 q changed⟩

/-- A page and its copy are changed alike. -/
theorem Separate.copy_of_changes (separate : m.Separate) {copying : Step} {operation' : String}
    (changes : Workbench.Changes m.view step on on operation f)
    (changesCopy : Workbench.Changes m.view copying on result operation' f) {p : Page}
    (found : m.value? on = some (.page p))
    : (m.take copying).2 = (m.take step).2
      ∧ ∀ a,
          (m.take copying).2 = .ok a
          → (m.take copying).1.value? result = (m.take step).1.value? on := by
  have extended := separate.take_of_changes changes found
  have copied := separate.take_of_changes changesCopy found
  refine ⟨copied.1.trans extended.1.symm, ?_⟩
  intro a done
  obtain ⟨_, q, same, changed, holds⟩ := separate.exists_of_changes changesCopy done
  cases found.symm.trans same
  rw [holds, extended.2 q changed]

end

-----------------------------------------------------------------------------------------
-- Programs
-----------------------------------------------------------------------------------------

/-- After every program, names stand for what they stand for where pages are values. A step that
fails changes the value of no name, and one that succeeds changes one name at most: the page to
which a segment or token is given gets at most one segment more, at its end; a copy to which it is
given becomes the same page or fails for the same reason. A copy or path of a page stays as it is
until its own name is given something else, whatever is done to the page.
-/
theorem run_isolated (program : List Step)
    : let m := run {} program
      m.view = Workbench.run [] program
      ∧ (∀ step,
          let call := m.take step
          call.2 = (m.view.take step).2
          ∧ ((∃ e, call.2 = .error e) → ∀ name, call.1.value? name = m.value? name))
      ∧ (∀ name later,
          (∀ step ∈ later, step.destination? ≠ some name)
          → (m.run later).value? name = m.value? name)
      ∧ (∀ on s a,
          (m.take (.append on s)).2 = .ok a
          → ∃ p,
              m.value? on = some (.page p)
              ∧ (m.take (.append on s)).1.value? on = some (.page ⟨p.segments ++ [s]⟩))
      ∧ (∀ on token a,
          (m.take (.appendToken on token)).2 = .ok a
          → ∃ p added,
              m.value? on = some (.page p)
              ∧ (m.take (.appendToken on token)).1.value? on
                = some (.page ⟨p.segments ++ added⟩)
              ∧ added = if token = "" then [] else [Segment.classify token])
      ∧ (∀ on result s p,
          m.value? on = some (.page p)
          → let copied := m.take (.appendCopy on result s)
            let extended := m.take (.append on s)
            copied.2 = extended.2
            ∧ ∀ a, copied.2 = .ok a → copied.1.value? result = extended.1.value? on)
      ∧ (∀ on result token p,
          m.value? on = some (.page p)
          → let copied := m.take (.appendTokenCopy on result token)
            let extended := m.take (.appendToken on token)
            copied.2 = extended.2
            ∧ ∀ a, copied.2 = .ok a → copied.1.value? result = extended.1.value? on)
      ∧ ∀ on result p later,
          m.value? on = some (.page p)
          → (∀ step ∈ later, step.destination? ≠ some result)
          → ((m.take (.copy on result)).1.run later).value? result = some (.page p)
            ∧ ((m.take (.derivePath on result)).1.run later).value? result
              = some (.path p.urlPath) := by
  intro m
  obtain ⟨separate, sameView⟩ : m.Separate ∧ m.view = Workbench.run [] program :=
    separate_empty.run program
  refine ⟨sameView, ?_, ?_, ?_, ?_, ?_, ?_, ?_⟩
  · intro step call
    refine ⟨(separate.agrees step).answer, ?_⟩
    rintro ⟨e, failed⟩ name
    exact separate.value?_take_of_error failed name
  · intro name later others
    exact separate.value?_run_of_ne others
  · intro on s a done
    obtain ⟨p, q, found, appended, holds⟩ :=
      separate.exists_of_changes (Workbench.changes_append m.view on s) done
    obtain ⟨_, rfl⟩ := Page.append_eq_ok_iff.mp appended
    exact ⟨p, found, holds⟩
  · intro on token a done
    obtain ⟨p, q, found, appended, holds⟩ :=
      separate.exists_of_changes (Workbench.changes_appendToken m.view on token) done
    exact ⟨p, _, found, Page.eq_of_appendToken appended ▸ holds, rfl⟩
  · intro on result s p found
    exact separate.copy_of_changes (Workbench.changes_append m.view on s)
      (Workbench.changes_appendCopy m.view on result s) found
  · intro on result token p found
    exact separate.copy_of_changes (Workbench.changes_appendToken m.view on token)
      (Workbench.changes_appendTokenCopy m.view on result token) found
  · intro on result p later found others
    have copied : m.view.page on "copy" = .ok p := Workbench.page_eq_ok_iff.mpr found
    have derived : m.view.page on "to_path" = .ok p := Workbench.page_eq_ok_iff.mpr found
    refine ⟨?_, ?_⟩
    · apply separate.value?_run_take (a := .done) _ others
      simp [Workbench.outcome, copied, bind, Except.bind, pure, Except.pure]
    · apply separate.value?_run_take (a := .done) _ others
      simp [Workbench.outcome, derived, bind, Except.bind, pure, Except.pure]

example
    : (run {}
        [.parse "page" "/a", .copy "page" "copy", .appendToken "copy" "[...b]",
          .appendToken "copy" "c", .appendToken "page" "d"]).value? "copy"
      = some (.page ⟨[.static "a", .catchAll "b"]⟩) := by
  decide

end Memory

end DirectoryRoutes
