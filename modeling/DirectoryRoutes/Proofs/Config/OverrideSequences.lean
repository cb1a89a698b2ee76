import DirectoryRoutes.Proofs.Config.EffectiveSettings
import DirectoryRoutes.Proofs.Config.StoredSettings

/-! Overrides in sequence. Each setting is what the last of the overrides that are accepted give for
it, whichever they are; overrides that choose a marker by no known word have no part in it, with all
else that they give.
-/

namespace DirectoryRoutes.Config

variable {c c₁ c₂ : Config} {o o' : Overrides} {α : Type}

-----------------------------------------------------------------------------------------
-- What overrides give
-----------------------------------------------------------------------------------------

namespace Overrides

/-- If a marker is chosen, it is chosen by one of the words for it. -/
def Valid (o : Overrides) : Prop :=
  ∀ word ∈ o.pageType, word ∈ pageTypeChoices

instance (o : Overrides) : Decidable o.Valid :=
  inferInstanceAs (Decidable (∀ word ∈ o.pageType, word ∈ pageTypeChoices))

/-- For each setting what the later overrides give, or else what the earlier ones do. -/
def merge (o later : Overrides) : Overrides where
  host := later.host.or o.host
  port := later.port.or o.port
  pageType := later.pageType.or o.pageType

/-- What is given for a setting for the last time. -/
def lastGiven (setting : Overrides → Option α) (os : List Overrides) : Option α :=
  (os.filterMap setting).getLast?

/-- The last override decides if it gives a value. -/
theorem lastGiven_append_singleton (setting : Overrides → Option α) (os : List Overrides)
    (o : Overrides)
    : lastGiven setting (os ++ [o]) = (setting o).or (lastGiven setting os) := by
  unfold lastGiven
  rw [List.filterMap_append, List.getLast?_append]
  cases given : setting o <;> simp [given]

/-- The overrides that give for each setting what is given for it for the last time. -/
def summary (os : List Overrides) : Overrides where
  host := lastGiven (·.host) os
  port := lastGiven (·.port) os
  pageType := lastGiven (·.pageType) os

/-- The summary of a sequence is that of its beginning, merged with its last override. -/
theorem summary_append_singleton (os : List Overrides) (o : Overrides)
    : summary (os ++ [o]) = (summary os).merge o := by
  simp only [summary, merge, lastGiven_append_singleton]

end Overrides

-----------------------------------------------------------------------------------------
-- Overrides once and again
-----------------------------------------------------------------------------------------

/-- Overrides fail exactly if their word is not listed, and then for this reason. -/
theorem override_eq_error_iff {e : SettingError}
    : c.override o = .error e ↔ ¬ o.Valid ∧ e = .pageTypeUnknown := by
  unfold override Overrides.Valid
  cases o.pageType with
  | none => simp [bind, Except.bind, pure, Except.pure]
  | some word =>
      simp only [bind_eq_error_iff, readPageType_eq_error_iff, pure, Except.pure]
      simp

/-- Overrides after others do to settings what both do at once. -/
theorem override_merge (first : c.override o = .ok c₁) (second : c₁.override o' = .ok c₂)
    : c.override (o.merge o') = .ok c₂ := by
  obtain ⟨host, port, word, source⟩ := override_eq_ok_iff.mp first
  obtain ⟨host', port', word', source'⟩ := override_eq_ok_iff.mp second
  rw [host] at host'
  rw [port] at port'
  rw [word] at word'
  rw [override_eq_ok_iff, host', port', word', source', source]
  simp [Overrides.merge, Option.getD_or]

/-- Settings with overrides in their place are what the same overrides make of them. -/
theorem override_again (applied : c.override o = .ok c₁) : c₁.override o = .ok c₁ := by
  obtain ⟨host, port, word, _⟩ := override_eq_ok_iff.mp applied
  rw [override_eq_ok_iff, host, port, word]
  refine ⟨?_, ?_, ?_, rfl⟩
  · cases o.host <;> rfl
  · cases o.port <;> rfl
  · cases o.pageType <;> rfl

-----------------------------------------------------------------------------------------
-- Overrides in turn
-----------------------------------------------------------------------------------------

/-- A sequence can be applied in two parts. -/
theorem overrideAll_append (c : Config) (before after : List Overrides)
    : c.overrideAll (before ++ after) = (c.overrideAll before).overrideAll after :=
  List.foldl_append

/-- A sequence goes on from its first override, or from where it was if that one fails. -/
theorem overrideAll_cons (c : Config) (o : Overrides) (os : List Overrides)
    : c.overrideAll (o :: os) = ((c.override o).toOption.getD c).overrideAll os :=
  rfl

/-- Overrides that fail might as well not be there. -/
theorem overrideAll_cons_of_not_valid (refused : ¬ o.Valid) (os : List Overrides)
    : c.overrideAll (o :: os) = c.overrideAll os := by
  rw [overrideAll_cons, override_eq_error_iff.mpr ⟨refused, rfl⟩]
  rfl

/-- Overrides in turn do what the last value that is accepted for each setting does, by induction on
the overrides.
-/
theorem override_summary (c : Config) (os : List Overrides)
    : c.override (.summary (os.filter (·.Valid))) = .ok (c.overrideAll os) := by
  induction os using List.reverseRecOn with
  | nil => simp [override_eq_ok_iff, Overrides.summary, Overrides.lastGiven, overrideAll]
  | append_singleton os o ih =>
      rw [overrideAll_append, List.filter_append]
      by_cases valid : o.Valid
      · obtain ⟨c', applied⟩ := exists_override (c.overrideAll os) o valid
        rw [List.filter_singleton, decide_eq_true valid, cond_true,
          Overrides.summary_append_singleton, overrideAll_cons, applied]
        exact override_merge ih applied
      · rw [overrideAll_cons_of_not_valid valid, List.filter_singleton, decide_eq_false valid,
          cond_false, List.append_nil]
        exact ih

/-- Of overrides in turn those fail that choose a marker by no known word, and they have no effect
at all. Each setting ends as the last value that the others give for it, or else as it was; the path
of the document stays. Two that succeed do in turn what they do at once, and repeating one changes
nothing. Settings in a store stay as they are whatever overrides are applied to some of them.
-/
theorem overrideAll_exact (c : Config) (os : List Overrides)
    : let accepted := os.filter (·.Valid)
      let final := c.overrideAll os
      (∀ before o after,
        os = before ++ o :: after
        → (∀ e,
            (c.overrideAll before).override o = .error e ↔ ¬ o.Valid ∧ e = .pageTypeUnknown)
          ∧ (¬ o.Valid → final = c.overrideAll (before ++ after)))
      ∧ (final.server.host = (Overrides.lastGiven (·.host) accepted).getD c.server.host
        ∧ final.server.port = (Overrides.lastGiven (·.port) accepted).getD c.server.port
        ∧ pageTypeWord final.marker
          = (Overrides.lastGiven (·.pageType) accepted).getD (pageTypeWord c.marker)
        ∧ final.source = c.source)
      ∧ (∀ o o' c₁ c₂,
          c.override o = .ok c₁
          → c₁.override o' = .ok c₂
          → c.override (o.merge o') = .ok c₂)
      ∧ (∀ o c₁, c.override o = .ok c₁ → c₁.override o = .ok c₁)
      ∧ ∀ (s : Store) base,
          s.config? base = some c
          → (s.overrideAll base os).2.config? (s.overrideAll base os).1 = some final
            ∧ ∀ place c',
                s.config? place = some c' → (s.overrideAll base os).2.config? place = some c' := by
  intro accepted final
  refine ⟨?_, override_eq_ok_iff.mp (override_summary c os), ?_, ?_, ?_⟩
  · intro before o after split
    refine ⟨fun _ => override_eq_error_iff, ?_⟩
    intro refused
    simp only [final, split, overrideAll_append, overrideAll_cons_of_not_valid refused]
  · exact fun _ _ _ _ => override_merge
  · exact fun _ _ => override_again
  · intro s base here
    obtain ⟨last, more⟩ := Store.config?_overrideAll os here
    exact ⟨last, fun _ _ => more.config?⟩

example
    : overrideAll {}
        [{ host := some "" }, { port := some 0, pageType := some "None" },
         { pageType := some "none" }]
      = { server := { host := "" }, marker := none } := by
  decide

end DirectoryRoutes.Config
