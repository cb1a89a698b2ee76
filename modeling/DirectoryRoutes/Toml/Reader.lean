import DirectoryRoutes.Toml.Document
import DirectoryRoutes.Toml.Numbers
import DirectoryRoutes.Toml.Texts

/-! TOML documents, read statement by statement into the document under construction. How much room
there is for arrays and inline tables inside one another depends on the machine, and is given to the
reader.
-/

namespace DirectoryRoutes.Toml

open Text

/-- A character of a name without marks. -/
def isBare (c : Char) : Bool :=
  c.isAlphanum || c = '-' || c = '_'

def keyPart : Reader Fault String := fun input =>
  match input with
  | c :: rest =>
      if isBare c then
        .ok ⟨String.ofList (c :: rest.takeWhile isBare), rest.dropWhile isBare,
          Nat.lt_succ_of_le (length_dropWhile_le isBare rest)⟩
      else if c = '\'' then do
        let t ← literalText false "'" rest
        .ok (t.map String.ofList).afterFirst
      else if c = '"' then do
        let t ← basicText false [] rest
        .ok (t.map String.ofList).afterFirst
      else fault .invalidKeyStart (c :: rest)
  | [] => fault .invalidKeyStart []

/-- A dotted key and the white space after it. -/
def key (input : List Char) : Except Fault (Taken Key input) := do
  let first ← keyPart input
  match h : first.rest.dropWhile isBlank with
  | '.' :: rest =>
      have shorter : (rest.dropWhile isBlank).length < input.length :=
        Nat.lt_of_le_of_lt (length_dropWhile_le isBlank rest)
          (Nat.lt_trans (length_lt_of_dropWhile h) first.shorter)
      let others ← key (rest.dropWhile isBlank)
      .ok ((others.map (first.value :: ·)).inside shorter)
  | _ => .ok (takeBlank (first.map ([·])))
termination_by input.length

def pair (value : Reader Fault Data) (input : List Char)
    : Except Fault (Taken (Key × Data) input) := do
  let k ← key input
  match h : k.rest with
  | '=' :: rest =>
      let v ← value (rest.dropWhile isBlank)
      have shorter : (rest.dropWhile isBlank).length < input.length :=
        Nat.lt_of_le_of_lt (length_dropWhile_le isBlank rest)
          (length_lt_of_cons h (Nat.le_of_lt k.shorter))
      .ok ((v.map fun d => (k.value, d)).inside shorter)
  | rest => fault .expectedEquals rest

/-- A character before the end of a line. -/
def isInLine (c : Char) : Bool :=
  c ≠ '\n'

/-- The end of a comment, if one begins here. -/
def skipComment (input : List Char) : Except Fault (Rest input) :=
  match input with
  | '#' :: rest =>
      match checkLegal false (rest.takeWhile isInLine) (rest.dropWhile isInLine) with
      | .ok _ =>
          .ok ⟨rest.dropWhile isInLine, Nat.le_succ_of_le (length_dropWhile_le isInLine rest)⟩
      | .error e => .error e
  | cs => .ok ⟨cs, Nat.le_refl _⟩

/-- The text without the white space, line breaks and comments at its front. -/
def skipFiller (input : List Char) : Except Fault (Rest input) :=
  match h : input.dropWhile isBlankOrBreak with
  | '#' :: after => do
      let rest ← skipComment ('#' :: after)
      if shorter : rest.text.length < input.length then
        let found ← skipFiller rest.text
        .ok (found.inside shorter)
      else .ok (rest.within (h ▸ length_dropWhile_le isBlankOrBreak input))
  | _ => .ok ⟨input.dropWhile isBlankOrBreak, length_dropWhile_le isBlankOrBreak input⟩
termination_by input.length

/-- The items of an array from the first one on, up to the closing bracket. -/
def items (value : Reader Fault Data) (input : List Char)
    : Except Fault (Taken (List Data) input) := do
  let first ← value input
  let filler ← skipFiller first.rest
  match h : filler.text with
  | ']' :: rest =>
      .ok ⟨[first.value], rest,
        Nat.lt_trans (length_lt_of_cons h filler.le) first.shorter⟩
  | ',' :: rest =>
      let filler' ← skipFiller rest
      have shorter : filler'.text.length < input.length :=
        Nat.lt_of_le_of_lt filler'.le
          (Nat.lt_trans (length_lt_of_cons h filler.le) first.shorter)
      match h' : filler'.text with
      | ']' :: rest =>
          .ok ⟨[first.value], rest, length_lt_of_cons h' (Nat.le_of_lt shorter)⟩
      | _ =>
          let others ← items value filler'.text
          .ok ((others.map (first.value :: ·)).inside shorter)
  | rest => fault .unclosedArray rest
termination_by input.length

/-- An array after its opening bracket. -/
def array (value : Reader Fault Data) (input : List Char)
    : Except Fault (Taken (List Data) input) := do
  let filler ← skipFiller input
  match h : filler.text with
  | ']' :: rest =>
      .ok ⟨[], rest, length_lt_of_cons h filler.le⟩
  | _ =>
      let all ← items value filler.text
      .ok (all.within filler.le)

/-- A change of the document whose cause of failure lies right before a rest. -/
def changing (change : Except Cause Entries) (rest : List Char) : Except Fault Entries :=
  match change with
  | .ok entries => .ok entries
  | .error cause => fault cause rest

/-- The pairs of an inline table from the first one on, up to the closing brace, added to those
read before.
-/
def pairs (value : Reader Fault Data) (entries : Entries) (input : List Char)
    : Except Fault (Taken Entries input) := do
  let first ← pair value input
  let entries ← changing (addInline first.value.1 first.value.2 entries) first.rest
  match h : first.rest.dropWhile isBlank with
  | '}' :: rest =>
      .ok ⟨entries, rest, Nat.lt_trans (length_lt_of_dropWhile h) first.shorter⟩
  | ',' :: rest =>
      have shorter : (rest.dropWhile isBlank).length < input.length :=
        Nat.lt_of_le_of_lt (length_dropWhile_le isBlank rest)
          (Nat.lt_trans (length_lt_of_dropWhile h) first.shorter)
      let all ← pairs value entries (rest.dropWhile isBlank)
      .ok (all.inside shorter)
  | rest => fault .unclosedInlineTable rest
termination_by input.length

/-- An inline table after its opening brace. -/
def inlineTable (value : Reader Fault Data) (input : List Char)
    : Except Fault (Taken Entries input) :=
  match h : input.dropWhile isBlank with
  | '}' :: rest =>
      .ok ⟨[], rest, length_lt_of_dropWhile h⟩
  | after => do
      let all ← pairs value [] after
      .ok (all.within (h ▸ length_dropWhile_le isBlank input))

/-- A value that begins with neither marks nor an opening character. -/
def plain : Reader Fault Data := fun input =>
  match [("true", Data.bool true), ("false", Data.bool false)].findSome? (Taken.word? input) with
  | some taken => .ok taken
  | none =>
      match dateOrNumber input with
      | none => fault .invalidValue input
      | some (.error cause, _) => fault cause input
      | some (.ok d, rest) =>
          if shorter : rest.length < input.length then .ok ⟨d, rest, shorter⟩
          else fault .invalidValue input

/-- A value. Of the room for what it holds an array takes two parts and an inline table three. -/
def value (room : Nat) : Reader Fault Data := fun input =>
  match input with
  | [] => fault .invalidValue []
  | c :: rest =>
      if c = '"' || c = '\'' then do
        let t ← anyText (c :: rest)
        .ok (t.map fun cs => .text (String.ofList cs))
      else if c = '[' then
        match room with
        | room + 2 => do
            let all ← array (value room) rest
            .ok (all.map .list).afterFirst
        | _ => fault .tooDeep (c :: rest)
      else if c = '{' then
        match room with
        | room + 3 => do
            let all ← inlineTable (value room) rest
            .ok (all.map fun entries => .record (entriesToData entries)).afterFirst
        | _ => fault .tooDeep (c :: rest)
      else plain (c :: rest)

/-- A document of which some statements have been read. -/
structure Progress where
  entries : Entries
  header : Key
  /-- The number of headers before this place. -/
  sectionNumber : Nat

/-- A table or array header, from its first bracket on. -/
def header (p : Progress) (input : List Char) : Except Fault (Progress × Rest input) :=
  match input with
  | '[' :: '[' :: rest => do
      let k ← key (rest.dropWhile isBlank)
      let entries ← changing (addTable k.value p.entries) k.rest
      match h : k.rest with
      | ']' :: ']' :: more =>
          have le : more.length ≤ rest.length :=
            Nat.le_of_lt (Nat.lt_of_succ_lt (length_lt_of_cons h k.length_rest_le))
          .ok (⟨entries, k.value, p.sectionNumber + 1⟩,
            ⟨more, Nat.le_succ_of_le (Nat.le_succ_of_le le)⟩)
      | more => fault .expectedArrayEnd more
  | '[' :: rest => do
      let k ← key (rest.dropWhile isBlank)
      let entries ← changing (openTable k.value p.entries) k.rest
      match h : k.rest with
      | ']' :: more =>
          have le : more.length ≤ rest.length :=
            Nat.le_of_lt (length_lt_of_cons h k.length_rest_le)
          .ok (⟨entries, k.value, p.sectionNumber + 1⟩, ⟨more, Nat.le_succ_of_le le⟩)
      | more => fault .expectedTableEnd more
  | cs => fault .invalidStatement cs

def assignment (room : Nat) (p : Progress) (input : List Char)
    : Except Fault (Progress × Rest input) := do
  let found ← pair (value room) input
  let (k, d) := found.value
  let entries ← changing (addPair p.sectionNumber p.header k d p.entries) found.rest
  .ok ({ p with entries }, ⟨found.rest, Nat.le_of_lt found.shorter⟩)

/-- One line's statement, up to its comment or its end. -/
def statement (room : Nat) (p : Progress) (input : List Char)
    : Except Fault (Progress × Rest input) :=
  match input with
  | [] => .ok (p, ⟨[], Nat.le_refl _⟩)
  | c :: rest =>
      if c = '\n' || c = '#' then .ok (p, ⟨c :: rest, Nat.le_refl _⟩)
      else if isBare c || c = '"' || c = '\'' then assignment room p (c :: rest)
      else if c = '[' then header p (c :: rest)
      else fault .invalidStatement (c :: rest)

/-- Reads the statements of a document, each one up to the end of its line. -/
def statements (room : Nat) (p : Progress) (input : List Char) : Except Fault Entries := do
  let (p, after) ← statement room p (input.dropWhile isBlank)
  let lineEnd ← skipComment (after.text.dropWhile isBlank)
  match h : lineEnd.text with
  | [] => .ok p.entries
  | '\n' :: rest =>
      have le : lineEnd.text.length ≤ input.length :=
        calc lineEnd.text.length
          _ ≤ (after.text.dropWhile isBlank).length := lineEnd.le
          _ ≤ after.text.length := length_dropWhile_le isBlank after.text
          _ ≤ (input.dropWhile isBlank).length := after.le
          _ ≤ input.length := length_dropWhile_le isBlank input
      have : rest.length < input.length := length_lt_of_cons h le
      statements room p rest
  | rest => fault .expectedLineEnd rest
termination_by input.length

/-- The record that a document describes, or its first fault and the lines in which it is. -/
def read (room : Nat) (document : List Char) : Except (Fault × List Char) Data :=
  let lines := unifyBreaks document
  match statements room ⟨[], [], 0⟩ lines with
  | .ok entries => .ok (.record (entriesToData entries))
  | .error f => .error (f, lines)

end DirectoryRoutes.Toml
