import DirectoryRoutes.CommandLine.Run
import DirectoryRoutes.Proofs.Json.PrintedCharacters

/-! What a machine shows of a text. Control sequences, which begin with an escape character, are for
terminals, and a stream that leads to none leaves them out; a text without that character is shown
as it is.
-/

namespace DirectoryRoutes

/-- No escape character stands in the text. -/
def Unescaped (text : String) : Prop :=
  '\x1b' ∉ text.toList

instance (text : String) : Decidable (Unescaped text) :=
  inferInstanceAs (Decidable ('\x1b' ∉ text.toList))

/-- A text has an escape character if and only if one of its parts has. -/
@[simp]
theorem unescaped_append_iff {left right : String}
    : Unescaped (left ++ right) ↔ Unescaped left ∧ Unescaped right := by
  simp only [Unescaped, String.toList_append, List.mem_append, not_or]

/-- A line has no escape character if its label and its text have none. -/
theorem Unescaped.line {label text : String} (labelled : Unescaped label)
    (unescaped : Unescaped text)
    : Unescaped (label ++ text ++ "\n") := by
  have lineBreak : Unescaped "\n" := by decide
  rw [unescaped_append_iff, unescaped_append_iff]
  exact ⟨⟨labelled, unescaped⟩, lineBreak⟩

/-- A document is written without escape characters, since all that is written is plain. -/
theorem Json.unescaped_write (d : Data) : Unescaped (Json.write .indented d) := by
  intro escape
  exact absurd (Json.plain_write d _ escape) (by decide)

namespace CommandLine

/-- The machine shows a text as it is unless an escape character stands in it. -/
structure Machine.Faithful (machine : Machine) : Prop where
  output : ∀ text, Unescaped text → machine.output text = text
  errors : ∀ text, Unescaped text → machine.errors text = text

/-- A machine that shows every text as it is does so for those without an escape character. -/
theorem Machine.Faithful.verbatim (nestingRoom : Nat)
    : (Machine.verbatim nestingRoom).Faithful :=
  ⟨fun _ _ => rfl, fun _ _ => rfl⟩

/-- A document is shown as it is written, since it is written without escape characters. -/
theorem Machine.Faithful.output_write {machine : Machine} (faithful : machine.Faithful) (d : Data)
    : machine.output (Json.write .indented d ++ "\n") = Json.write .indented d ++ "\n" :=
  faithful.output _ (unescaped_append_iff.mpr ⟨Json.unescaped_write d, by decide⟩)

end CommandLine

end DirectoryRoutes
