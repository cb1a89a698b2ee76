import DirectoryRoutes.Proofs.Workbench.ReachedPages

/-! What a step may change. A step that fails changes nothing, and one that succeeds gives a value
to one name at most. Appending, to a page or to a copy of it, comes down to one change of the page.
-/

namespace DirectoryRoutes

/-- The name to which a step gives a value if it succeeds. -/
def Step.destination? : Step → Option String
  | .new on _ | .parse on _ | .ofData on _ | .append on _ | .appendToken on _ => some on
  | .appendCopy _ result _ | .appendTokenCopy _ result _ | .copy _ result | .roundTrip _ result =>
      some result
  | .derivePath _ result | .filterPath _ result => some result
  | .ask _ _ => none

namespace Workbench

/-- A step gives a value to its destination alone, by cases on the step. -/
theorem destination?_of_outcome {w : Workbench} {step : Step} {name : String} {x : Piece}
    {a : Answer} (made : w.outcome step = .ok (some (name, x), a))
    : step.destination? = some name := by
  cases step <;>
    simp only [outcome, bind_eq_ok_iff, pure, Except.pure, Except.ok.injEq, Prod.mk.injEq,
      Option.some.injEq, reduceCtorEq, false_and, and_false, exists_false] at made
  all_goals grind [Step.destination?]

/-- A step that fails leaves the workbench. -/
theorem take_of_error {w : Workbench} {step : Step} {e : StepError}
    (failed : (w.take step).2 = .error e)
    : (w.take step).1 = w := by
  unfold take at failed ⊢
  split at failed
  · cases failed
  · cases failed
  · rfl

/-- All names but one keep what they stand for. -/
theorem get?_take_of_ne {w : Workbench} {step : Step} {name : String}
    (other : step.destination? ≠ some name)
    : Table.get? name (w.take step).1 = Table.get? name w := by
  unfold take
  split
  · rename_i target x a made
    have different : name ≠ target := by
      rintro rfl
      exact other (destination?_of_outcome made)
    exact Table.get?_set_of_ne x w different
  · rfl
  · rfl

/-- A name keeps what it stands for while steps give values to others, by induction on the steps. -/
theorem get?_run_of_ne {w : Workbench} {program : List Step} {name : String}
    (others : ∀ step ∈ program, step.destination? ≠ some name)
    : Table.get? name (w.run program) = Table.get? name w := by
  induction program generalizing w with
  | nil => rfl
  | cons step rest ih =>
      calc Table.get? name (w.run (step :: rest))
        _ = Table.get? name (w.take step).1 :=
          ih fun later member => others later (by simp [member])
        _ = Table.get? name w := get?_take_of_ne (others step (by simp))

/-- The step changes the page of one name and gives the changed page to a name. -/
def Changes (w : Workbench) (step : Step) (on result operation : String)
    (f : Page → Except SegmentError Page)
    : Prop :=
  w.outcome step = do
    let p ← w.page on operation
    let q ← (f p).mapError .segment
    pure (some (result, .page q), .done)

/-- Adding a segment changes the page of a name. -/
theorem changes_append (w : Workbench) (on : String) (s : Segment)
    : Changes w (.append on s) on on "append" (·.append s) :=
  rfl

/-- Adding a token changes the page of a name. -/
theorem changes_appendToken (w : Workbench) (on token : String)
    : Changes w (.appendToken on token) on on "append_token" (·.appendToken token) :=
  rfl

/-- Adding a segment to a copy changes a page for another name. -/
theorem changes_appendCopy (w : Workbench) (on result : String) (s : Segment)
    : Changes w (.appendCopy on result s) on result "append_segment_copy" (·.append s) :=
  rfl

/-- Adding a token to a copy changes a page for another name. -/
theorem changes_appendTokenCopy (w : Workbench) (on result token : String)
    : Changes w (.appendTokenCopy on result token) on result "append_token_copy"
        (·.appendToken token) :=
  rfl

section

variable {w : Workbench} {step : Step} {on result operation : String}
variable {f : Page → Except SegmentError Page}

/-- A step that changes a page, or a copy of it, succeeds if and only if the change does. -/
theorem Changes.take (changes : Changes w step on result operation f) {p : Page}
    (found : Table.get? on w = some (.page p))
    : w.take step
      = match f p with
        | .ok q => (Table.set result (.page q) w, .ok .done)
        | .error e => (w, .error (.segment e)) := by
  have here : w.page on operation = .ok p := page_eq_ok_iff.mpr found
  unfold Workbench.take
  rw [changes, here]
  cases changed : f p with
  | ok q => simp [changed, bind, Except.bind, Except.mapError, pure, Except.pure]
  | error e => simp [changed, bind, Except.bind, Except.mapError]

/-- Only a page can be changed. -/
theorem Changes.exists_page (changes : Changes w step on result operation f) {a : Answer}
    (done : (w.take step).2 = .ok a)
    : ∃ p, Table.get? on w = some (.page p) := by
  cases found : w.page on operation with
  | ok p => exact ⟨p, page_eq_ok_iff.mp found⟩
  | error e =>
      unfold Workbench.take at done
      rw [changes, found] at done
      cases done

end

end Workbench

end DirectoryRoutes
