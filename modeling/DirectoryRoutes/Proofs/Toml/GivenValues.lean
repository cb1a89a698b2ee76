import DirectoryRoutes.Proofs.Results
import DirectoryRoutes.Toml.Reader

/-! What a TOML document gives to its names. Null cannot be written and no table is null, so every
name either has a value or is missing.
-/

namespace DirectoryRoutes.Toml

open Text

-----------------------------------------------------------------------------------------
-- Documents under construction
-----------------------------------------------------------------------------------------

/-- No name stands for null. -/
def Filled (entries : Entries) : Prop :=
  ∀ name node, Table.get? name entries = some node → node.toData ≠ .null

/-- The change leaves no name with null. -/
def Keeps (change : Entries → Except Cause Entries) : Prop :=
  ∀ entries after, Filled entries → change entries = .ok after → Filled after

/-- The ways lead into tables. -/
def Opens (enter : Key → Option Node → Except Cause Way) : Prop :=
  ∀ path node? way, enter path node? = .ok way → ∀ inner, (way.close inner).toData ≠ .null

/-- A table without entries is filled. -/
theorem filled_nil : Filled [] := by
  intro name node found
  cases found

/-- A filled table stays so if a name is given a value that is not null. -/
theorem Filled.set {entries : Entries} (filled : Filled entries) {node : Node}
    (given : node.toData ≠ .null) (name : String)
    : Filled (Table.set name node entries) := by
  intro other node' found
  by_cases same : other = name
  · subst same
    rw [Table.get?_set_self, Option.some.injEq] at found
    exact found ▸ given
  · rw [Table.get?_set_of_ne node entries same] at found
    exact filled other node' found

/-- A header leads into a table, by cases on what its name stands for. -/
theorem opens_enterAbove (blocked : Cause) : Opens (enterAbove blocked) := by
  intro path node? way entered inner
  rcases node? with _ | ⟨d⟩ | ⟨origin, entries⟩ | ⟨before, last⟩ <;> cases entered <;>
    simp [Node.toData]

/-- A dotted key leads into a table, by cases on what its name stands for. -/
theorem opens_enterDotted (sectionNumber : Nat) (blocked : Cause)
    : Opens (enterDotted sectionNumber blocked) := by
  intro path node? way entered inner
  unfold enterDotted at entered
  split at entered
  · cases entered
    simp [Node.toData]
  · split at entered <;> cases entered
    simp [Node.toData]
  · cases entered
  · cases entered

/-- Where a path leads into a table, the name at its beginning stands for a table. -/
theorem Keeps.alter {enter : Key → Option Node → Except Cause Way}
    {change : Entries → Except Cause Entries} (opens : Opens enter) (keeps : Keeps change)
    (path key : Key)
    : Keeps (alter enter change path key) := by
  intro entries after filled altered
  cases key with
  | nil => exact keeps entries after filled altered
  | cons name names =>
      obtain ⟨way, entered, altered⟩ := bind_eq_ok_iff.mp altered
      obtain ⟨inner, _, set⟩ := bind_eq_ok_iff.mp altered
      cases set
      exact filled.set (opens _ _ way entered inner) name

/-- A value that is not null is added under a free name. -/
theorem keeps_addValue (name : String) {d : Data} (given : d ≠ .null) (taken : Cause)
    : Keeps (addValue name d taken) := by
  intro entries after filled added
  unfold addValue at added
  split at added
  · cases added
    exact filled.set (by simpa [Node.toData] using given) name
  · cases added

/-- Opening a table keeps entries filled, by cases on what its name stands for. -/
theorem keeps_openTable (key : Key) : Keeps (openTable key) := by
  intro entries after filled opened
  unfold openTable at opened
  split at opened
  · refine Keeps.alter (opens_enterAbove _) ?_ [] _ entries after filled opened
    intro entries after filled declared
    dsimp only at declared
    split at declared <;> cases declared
    · exact filled.set (by simp [Node.toData]) _
    · exact filled.set (by simp [Node.toData]) _
  · cases opened
    exact filled

/-- Adding a table to an array of tables keeps entries filled. -/
theorem keeps_addTable (key : Key) : Keeps (addTable key) := by
  intro entries after filled opened
  unfold addTable at opened
  split at opened
  · refine Keeps.alter (opens_enterAbove _) ?_ [] _ entries after filled opened
    intro entries after filled added
    dsimp only at added
    split at added <;> cases added
    · exact filled.set (by simp [Node.toData]) _
    · exact filled.set (by simp [Node.toData]) _
  · cases opened
    exact filled

/-- Adding a pair whose value is not null keeps entries filled. -/
theorem keeps_addPair (sectionNumber : Nat) (header key : Key) {d : Data} (given : d ≠ .null)
    : Keeps (addPair sectionNumber header key d) := by
  intro entries after filled added
  unfold addPair at added
  split at added
  · refine Keeps.alter (opens_enterAbove _) ?_ [] _ entries after filled added
    exact (keeps_addValue _ given _).alter (opens_enterDotted sectionNumber _) header _
  · cases added
    exact filled

/-- A change that keeps entries filled does so where the rest of the input is carried along. -/
theorem Keeps.changing {change : Entries → Except Cause Entries} (keeps : Keeps change)
    {entries after : Entries} {rest : List Char} (filled : Filled entries)
    (changed : changing (change entries) rest = .ok after)
    : Filled after := by
  unfold Toml.changing at changed
  split at changed
  · rename_i done
    cases changed
    exact keeps entries after filled done
  · cases changed

-----------------------------------------------------------------------------------------
-- Values
-----------------------------------------------------------------------------------------

/-- No numeral is null. -/
theorem decimal_ne_null {input rest : List Char} {d : Data}
    (read : decimal input = some (.ok d, rest))
    : d ≠ .null := by
  obtain ⟨whole, _, read⟩ := Option.bind_eq_some_iff.mp read
  dsimp only at read
  split at read
  · split at read <;> cases read
    simp
  · cases read
    simp

/-- No infinity is null, nor is what is no number. -/
theorem special_ne_null {input rest : List Char} {d : Data} (read : special input = some (d, rest))
    : d ≠ .null := by
  unfold special at read
  dsimp only at read
  split at read <;> cases read <;> simp

/-- No date, time or number is null. -/
theorem dateOrNumber_ne_null {input rest : List Char} {d : Data}
    (read : dateOrNumber input = some (.ok d, rest))
    : d ≠ .null := by
  unfold dateOrNumber at read
  dsimp only at read
  split at read
  · rename_i checked _ _
    cases checked <;> cases read
    simp
  · split at read
    · cases read
      simp
    · split at read
      · cases read
        simp
      · split at read
        · rename_i found
          cases read
          exact decimal_ne_null found
        · obtain ⟨⟨d', rest'⟩, found, same⟩ := Option.map_eq_some_iff.mp read
          cases same
          exact special_ne_null found

/-- A word that is taken has its own value. -/
theorem word?_value {α : Type} {input : List Char} {word : String × α} {t : Taken α input}
    (taken : Taken.word? input word = some t)
    : t.value = word.2 := by
  unfold Taken.word? at taken
  split at taken
  · split at taken <;> cases taken
    rfl
  · cases taken

/-- No value without items is null, by cases on what it begins with. -/
theorem plain_ne_null {input : List Char} {t : Taken Data input} (read : plain input = .ok t)
    : t.value ≠ .null := by
  unfold plain at read
  split at read
  · rename_i taken found
    cases read
    obtain ⟨word, listed, taken⟩ := List.exists_of_findSome?_eq_some found
    rw [word?_value taken]
    simp only [List.mem_cons, List.not_mem_nil, or_false] at listed
    rcases listed with rfl | rfl <;> simp
  · split at read
    · cases read
    · cases read
    · rename_i found
      split at read <;> cases read
      exact dateOrNumber_ne_null found

/-- No value is null, by cases on the character with which it begins. -/
theorem value_ne_null {room : Nat} {input : List Char} {t : Taken Data input}
    (read : value room input = .ok t)
    : t.value ≠ .null := by
  unfold value at read
  split at read
  · cases read
  · split at read
    · obtain ⟨text, _, taken⟩ := bind_eq_ok_iff.mp read
      cases taken
      simp [Taken.map]
    · split at read
      · split at read
        · obtain ⟨all, _, taken⟩ := bind_eq_ok_iff.mp read
          cases taken
          simp [Taken.map, Taken.afterFirst, Taken.within]
        · cases read
      · split at read
        · split at read
          · obtain ⟨all, _, taken⟩ := bind_eq_ok_iff.mp read
            cases taken
            simp [Taken.map, Taken.afterFirst, Taken.within]
          · cases read
        · exact plain_ne_null read

/-- The value of a pair is not null. -/
theorem pair_ne_null {room : Nat} {input : List Char} {t : Taken (Key × Data) input}
    (read : pair (value room) input = .ok t)
    : t.value.2 ≠ .null := by
  obtain ⟨k, _, read⟩ := bind_eq_ok_iff.mp read
  dsimp only at read
  split at read
  · obtain ⟨v, given, taken⟩ := bind_eq_ok_iff.mp read
    cases taken
    exact value_ne_null given
  · cases read

-----------------------------------------------------------------------------------------
-- Statements
-----------------------------------------------------------------------------------------

/-- A header keeps entries filled. -/
theorem filled_of_header {p q : Progress} {input : List Char} {rest : Rest input}
    (filled : Filled p.entries) (read : header p input = .ok (q, rest))
    : Filled q.entries := by
  unfold header at read
  split at read
  · obtain ⟨k, _, read⟩ := bind_eq_ok_iff.mp read
    obtain ⟨entries, changed, read⟩ := bind_eq_ok_iff.mp read
    have after := (keeps_addTable k.value).changing filled changed
    split at read <;> cases read
    exact after
  · obtain ⟨k, _, read⟩ := bind_eq_ok_iff.mp read
    obtain ⟨entries, changed, read⟩ := bind_eq_ok_iff.mp read
    have after := (keeps_openTable k.value).changing filled changed
    split at read <;> cases read
    exact after
  · cases read

/-- A pair keeps entries filled. -/
theorem filled_of_assignment {room : Nat} {p q : Progress} {input : List Char}
    {rest : Rest input} (filled : Filled p.entries)
    (read : assignment room p input = .ok (q, rest))
    : Filled q.entries := by
  obtain ⟨found, given, read⟩ := bind_eq_ok_iff.mp read
  obtain ⟨entries, changed, read⟩ := bind_eq_ok_iff.mp read
  cases read
  exact (keeps_addPair p.sectionNumber p.header _ (pair_ne_null given)).changing filled changed

/-- A statement keeps entries filled: it is blank, a header or a pair. -/
theorem filled_of_statement {room : Nat} {p q : Progress} {input : List Char} {rest : Rest input}
    (filled : Filled p.entries) (read : statement room p input = .ok (q, rest))
    : Filled q.entries := by
  unfold statement at read
  split at read
  · cases read
    exact filled
  · split at read
    · cases read
      exact filled
    · split at read
      · exact filled_of_assignment filled read
      · split at read
        · exact filled_of_header filled read
        · cases read

/-- Statements leave no name with null, by induction on the lines. -/
theorem filled_of_statements {room : Nat} {p : Progress} {input : List Char} {entries : Entries}
    (filled : Filled p.entries) (read : statements room p input = .ok entries)
    : Filled entries := by
  induction p, input using statements.induct with
  | case1 p input ih =>
      rw [statements] at read
      obtain ⟨⟨q, after⟩, done, read⟩ := bind_eq_ok_iff.mp read
      obtain ⟨lineEnd, _, read⟩ := bind_eq_ok_iff.mp read
      have line := filled_of_statement filled done
      split at read
      · cases read
        exact line
      · rename_i rest more
        exact ih q after lineEnd rest more line read
      · cases read

/-- A name of the document stands for what it stood for when the document was read, by induction on
the entries.
-/
theorem get?_entriesToData (name : String) (entries : Entries)
    : Table.get? name (entriesToData entries) = (Table.get? name entries).map Node.toData := by
  induction entries with
  | nil => rfl
  | cons entry rest ih =>
      by_cases here : entry.1 = name
      · simp [entriesToData, Table.get?, here]
      · simpa [entriesToData, Table.get?, here] using ih

/-- A document is a record in which no name stands for null. -/
theorem exists_fields_of_read {room : Nat} {text : List Char} {document : Data}
    (read : Toml.read room text = .ok document)
    : (∃ fields, document = .record fields) ∧ ∀ name, document.field? name ≠ some .null := by
  unfold Toml.read at read
  dsimp only at read
  split at read
  · rename_i entries found
    cases read
    refine ⟨⟨_, rfl⟩, ?_⟩
    intro name null
    rw [Data.field?, get?_entriesToData, Option.map_eq_some_iff] at null
    obtain ⟨node, given, same⟩ := null
    exact filled_of_statements filled_nil found name node given same
  · cases read

end DirectoryRoutes.Toml
