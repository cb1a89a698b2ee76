import Mathlib.Data.List.Basic

/-! Results: what succeeds with a value, or fails with a reason. What is made of several steps
succeeds if every step does, and fails with the reason of the first step that fails.
-/

namespace DirectoryRoutes

variable {ε ε' α β γ : Type}

/-- A sequence succeeds if and only if both steps do, by cases on the first one. -/
theorem bind_eq_ok_iff {x : Except ε α} {f : α → Except ε β} {b : β}
    : (x >>= f) = .ok b ↔ ∃ a, x = .ok a ∧ f a = .ok b := by
  cases x with
  | error e => simp [bind, Except.bind]
  | ok a => simp [bind, Except.bind]

/-- A sequence fails as its first step does, or else as its second one does, by cases on the first.
-/
theorem bind_eq_error_iff {x : Except ε α} {f : α → Except ε β} {e : ε}
    : (x >>= f) = .error e ↔ x = .error e ∨ ∃ a, x = .ok a ∧ f a = .error e := by
  cases x with
  | error e => simp [bind, Except.bind]
  | ok a => simp [bind, Except.bind]

/-- Another name for the failures leaves every success. -/
theorem mapError_eq_ok_iff {x : Except ε α} {label : ε → ε'} {a : α}
    : x.mapError label = .ok a ↔ x = .ok a := by
  cases x <;> simp [Except.mapError]

/-- Each failure under the new names has one under the old names. -/
theorem mapError_eq_error_iff {x : Except ε α} {label : ε → ε'} {reason : ε'}
    : x.mapError label = .error reason ↔ ∃ e, x = .error e ∧ label e = reason := by
  cases x <;> simp [Except.mapError]

/-- A traversal succeeds if and only if every item does, by induction on the items. -/
theorem mapM_eq_ok_iff {f : α → Except ε β} {items : List α} {values : List β}
    : items.mapM f = .ok values ↔ items.map f = values.map .ok := by
  induction items generalizing values with
  | nil => simp [pure, Except.pure, eq_comm]
  | cons item rest ih =>
      simp only [List.mapM_cons, bind_eq_ok_iff, ih, pure, Except.pure, Except.ok.injEq]
      constructor
      · intro results
        obtain ⟨value, first, others, each, rfl⟩ := results
        simp [first, each]
      · intro each
        cases values with
        | nil => simp at each
        | cons value others =>
            simp only [List.map_cons, List.cons.injEq] at each
            exact ⟨value, each.1, others, each.2, rfl⟩

/-- A check of all items succeeds if and only if it does for each, by induction on the items. -/
theorem forM_eq_ok_iff {f : α → Except ε Unit} {items : List α}
    : forM items f = .ok () ↔ ∀ item ∈ items, f item = .ok () := by
  induction items with
  | nil => simp [pure, Except.pure]
  | cons item rest ih =>
      simp only [List.forM_cons, bind_eq_ok_iff, ih, List.forall_mem_cons, Unique.exists_iff,
        PUnit.default_eq_unit]

/-- What holds between each item and its result holds between their lists, by induction on the
items.
-/
theorem map_eq_map_of_results {f : α → Except ε β} {g : α → γ} {h : β → γ} {items : List α}
    {values : List β} (each : items.map f = values.map .ok)
    (same : ∀ item value, f item = .ok value → g item = h value)
    : items.map g = values.map h := by
  induction items generalizing values with
  | nil => cases values <;> simp at each ⊢
  | cons item rest ih =>
      cases values with
      | nil => simp at each
      | cons value others =>
          simp only [List.map_cons, List.cons.injEq] at each ⊢
          exact ⟨same item value each.1, ih each.2⟩

/-- Items fail with the reason of the first one that fails, whatever comes after it, by induction on
the items.
-/
theorem mapM_eq_error_iff {f : α → Except ε β} {items : List α} {e : ε}
    : items.mapM f = .error e
      ↔ ∃ before item after, ∃ values : List β,
          items = before ++ item :: after
          ∧ before.map f = values.map .ok
          ∧ f item = .error e := by
  constructor
  · intro failed
    induction items with
    | nil => simp [pure, Except.pure] at failed
    | cons item rest ih =>
        rw [List.mapM_cons, bind_eq_error_iff] at failed
        rcases failed with first | ⟨value, first, failed⟩
        · exact ⟨[], item, rest, [], rfl, rfl, first⟩
        · rw [bind_eq_error_iff] at failed
          rcases failed with failed | ⟨_, _, impossible⟩
          · obtain ⟨before, bad, after, values, rfl, each, last⟩ := ih failed
            exact ⟨item :: before, bad, after, value :: values, rfl, by simp [first, each], last⟩
          · cases impossible
  · intro first
    obtain ⟨before, item, after, values, rfl, each, failed⟩ := first
    rw [List.mapM_append, mapM_eq_ok_iff.mpr each, List.mapM_cons, failed]
    rfl

end DirectoryRoutes
