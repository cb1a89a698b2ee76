import DirectoryRoutes.CommandLine.Invocation
import DirectoryRoutes.Proofs.Results
import Mathlib.Data.List.Nodup

/-! What arguments can ask for. Every option that is given is one of the command, and the values
that count have passed the check of their option.
-/

namespace DirectoryRoutes.CommandLine

variable {options : List OptionSpec}

-----------------------------------------------------------------------------------------
-- Options that are given
-----------------------------------------------------------------------------------------

/-- The letters behind a dash name options of the list. -/
structure Bundle.Among (options : List OptionSpec) (b : Bundle) : Prop where
  given : ∀ g ∈ b.given, g.option ∈ options
  waiting : ∀ called ∈ b.waiting, called.1 ∈ options

/-- The letters of a bundle are those of options, by induction on the letters. -/
theorem among_of_readBundle {letters : List Char} {b : Bundle}
    (read : readBundle options letters = .ok b)
    : b.Among options := by
  induction letters generalizing b with
  | nil =>
      cases read
      exact ⟨by simp, by simp⟩
  | cons letter letters ih =>
      unfold readBundle at read
      split at read
      · cases read
      · rename_i o found
        have listed : o ∈ options := List.mem_of_find?_eq_some found
        split at read
        · obtain ⟨rest, later, made⟩ := bind_eq_ok_iff.mp read
          cases made
          refine ⟨?_, (ih later).waiting⟩
          intro g member
          rcases List.mem_cons.mp member with rfl | behind
          · exact listed
          · exact (ih later).given g behind
        · cases read
          exact ⟨by simp, by simpa using listed⟩
        · cases read
          exact ⟨by simpa using listed, by simp⟩

/-- What begins with a dash is an option, or a bundle of them. -/
theorem among_of_readDashed {argument : List Char} {b : Bundle}
    (read : readDashed options argument = .ok b)
    : b.Among options := by
  unfold readDashed at read
  simp only at read
  split at read
  · rename_i o found
    have listed : o ∈ options := List.mem_of_find?_eq_some found
    split at read <;> cases read
    · exact ⟨by simpa using listed, by simp⟩
    · exact ⟨by simp, by simpa using listed⟩
    · exact ⟨by simpa using listed, by simp⟩
  · split at read
    · cases read
    · exact among_of_readBundle read

/-- Every option that is given is one of the list, by induction on the arguments that are read. -/
theorem option_mem_of_readArguments {mixed : Bool} {arguments : List String} {r : Reading}
    (read : readArguments options mixed arguments = .ok r)
    : ∀ g ∈ r.given, g.option ∈ options := by
  induction arguments using readArguments.induct mixed generalizing r with
  | case1 =>
      cases read
      simp
  | case2 argument rest dashes =>
      simp only [readArguments, dashes] at read
      cases read
      simp
  | case3 argument rest c cs more dashed ih ihAfter =>
      simp only [readArguments, dashed, bind_eq_ok_iff] at read
      obtain ⟨b, called, read⟩ := read
      have among := among_of_readDashed called
      split at read
      · obtain ⟨later, behind, made⟩ := bind_eq_ok_iff.mp read
        cases made
        intro g member
        rcases List.mem_append.mp member with here | there
        · exact among.given g here
        · exact ih behind g there
      · rename_i o name waiting
        cases rest with
        | nil => cases read
        | cons value rest =>
            obtain ⟨later, behind, made⟩ := bind_eq_ok_iff.mp read
            cases made
            intro g member
            rcases List.mem_append.mp member with here | there
            · exact among.given g here
            · rcases List.mem_cons.mp there with rfl | there
              · exact among.waiting _ waiting
              · exact ihAfter behind g there
  | case4 argument rest isMixed _ _ ih =>
      rw [readArguments.eq_def] at read
      simp only [isMixed, if_true] at read
      obtain ⟨later, behind, made⟩ := bind_eq_ok_iff.mp read
      cases made
      have listed : ∀ g ∈ later.given, g.option ∈ options := ih (isMixed ▸ behind)
      exact listed
  | case5 argument rest unmixed _ _ =>
      rw [readArguments.eq_def] at read
      simp only [unmixed] at read
      cases read
      simp

-----------------------------------------------------------------------------------------
-- Values that count
-----------------------------------------------------------------------------------------

/-- An option that counts was given. -/
theorem Reading.exists_given {r : Reading} {long value : String}
    (counts : r.value? long = some value)
    : ∃ g ∈ r.given, g.option.long = long := by
  obtain ⟨g, found, _⟩ := Option.bind_eq_some_iff.mp counts
  exact ⟨g, List.mem_reverse.mp (List.mem_of_find?_eq_some found),
    by simpa using List.find?_some found⟩

/-- A value that counts has passed the check of the option by which it was given. -/
theorem Reading.exists_check {present : String → Bool} {r : Reading} {long value : String}
    (among : ∀ g ∈ r.given, g.option ∈ options) (checked : r.check present = .ok ())
    (counts : r.value? long = some value)
    : ∃ o ∈ options,
        o.long = long ∧ ∀ kind ∈ o.value, kind.check present o value = .ok () := by
  obtain ⟨g, member, rfl⟩ := Reading.exists_given counts
  refine ⟨g.option, among g member, rfl, ?_⟩
  intro kind takes
  have passed := forM_eq_ok_iff.mp checked g member
  rw [Option.mem_def.mp takes, counts] at passed
  exact passed

/-- A choice that passes its check is one of its words. -/
theorem mem_of_check_choice {present : String → Bool} {o : OptionSpec} {words : List String}
    {value : String} (checked : (ValueKind.choice words).check present o value = .ok ())
    : value ∈ words := by
  simp only [ValueKind.check] at checked
  split at checked
  · simpa using ‹words.contains value = true›
  · cases checked

/-- A path that passes its check is present. -/
theorem present_of_check_path {present : String → Bool} {o : OptionSpec} {value : String}
    (checked : ValueKind.path.check present o value = .ok ())
    : present value = true := by
  simp only [ValueKind.check] at checked
  split at checked
  · cases checked
  · split at checked
    · assumption
    · cases checked

-----------------------------------------------------------------------------------------
-- Requests for a route
-----------------------------------------------------------------------------------------

/-- A request for a route is read from what is behind the name of the command. -/
theorem exists_readParse {present : String → Bool} {arguments : List String}
    {request : ParseRequest} (asked : readInvocation present arguments = .ok (.parse request))
    : ∃ rest, readParse present rest = .ok (.parse request) := by
  obtain ⟨r, _, asked⟩ := bind_eq_ok_iff.mp asked
  split at asked
  · cases asked
  · split at asked
    · cases asked
    · rename_i name rest _
      split at asked
      · exact ⟨rest, mapError_eq_ok_iff.mp asked⟩
      · split at asked
        -- The other command has its own request.
        · obtain ⟨r, _, served⟩ := bind_eq_ok_iff.mp (mapError_eq_ok_iff.mp asked)
          split at served
          · cases served
          · obtain ⟨_, _, served⟩ := bind_eq_ok_iff.mp served
            obtain ⟨_, _, served⟩ := bind_eq_ok_iff.mp served
            cases served
        · obtain ⟨_, _, again⟩ := bind_eq_ok_iff.mp asked
          split at again <;> cases again

/-- No two options of the command have the same long name. -/
theorem eq_of_long_eq {o o' : OptionSpec} (listed : o ∈ parseCommand.allOptions)
    (listed' : o' ∈ parseCommand.allOptions) (same : o.long = o'.long)
    : o = o' := by
  have distinct : (parseCommand.allOptions.map OptionSpec.long).Nodup := by decide
  exact List.inj_on_of_nodup_map distinct listed listed' same

/-- A request for a route chooses one of the words for a marker, if any, and a path that is present.
-/
theorem of_readInvocation {present : String → Bool} {arguments : List String}
    {request : ParseRequest} (asked : readInvocation present arguments = .ok (.parse request))
    : (∀ word ∈ request.pageType, word ∈ pageTypeChoices)
      ∧ ∀ text ∈ request.config, present text = true := by
  obtain ⟨rest, parsed⟩ := exists_readParse asked
  obtain ⟨r, read, parsed⟩ := bind_eq_ok_iff.mp parsed
  have among := option_mem_of_readArguments read
  split at parsed
  · cases parsed
  · obtain ⟨_, checked, parsed⟩ := bind_eq_ok_iff.mp parsed
    split at parsed
    · cases parsed
    · cases parsed
      constructor
      · intro word counts
        obtain ⟨o, listed, named, passed⟩ := Reading.exists_check among checked counts
        have same : o = typeOption :=
          eq_of_long_eq listed (by simp [Command.allOptions, parseCommand]) named
        exact mem_of_check_choice (passed _ (same ▸ rfl))
      · intro text counts
        obtain ⟨o, listed, named, passed⟩ := Reading.exists_check among checked counts
        have same : o = configOption :=
          eq_of_long_eq listed (by simp [Command.allOptions, parseCommand]) named
        exact present_of_check_path (passed _ (same ▸ rfl))
    · cases parsed

end DirectoryRoutes.CommandLine
