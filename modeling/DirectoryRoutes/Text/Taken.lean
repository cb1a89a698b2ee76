/-! Readers that take something from the front of a text. Each leaves a shorter rest, so that a
reader may be repeated until nothing is left.
-/

namespace DirectoryRoutes.Text

/-- What a reader took from the front of a text, and the rest. -/
structure Taken (α : Type) (input : List Char) where
  value : α
  rest : List Char
  shorter : rest.length < input.length

/-- A reader takes something from the front of a text or fails. -/
abbrev Reader (ε α : Type) := (input : List Char) → Except ε (Taken α input)

namespace Taken

variable {α β : Type}

/-- What was taken from the rest of a text was taken from the text. -/
def within {before input : List Char} (t : Taken α input) (h : input.length ≤ before.length)
    : Taken α before :=
  ⟨t.value, t.rest, Nat.lt_of_lt_of_le t.shorter h⟩

def inside {before input : List Char} (t : Taken α input) (h : input.length < before.length)
    : Taken α before :=
  t.within (Nat.le_of_lt h)

def afterFirst {c : Char} {rest : List Char} (t : Taken α rest) : Taken α (c :: rest) :=
  t.within (Nat.le_succ _)

def map {input : List Char} (f : α → β) (t : Taken α input) : Taken β input :=
  ⟨f t.value, t.rest, t.shorter⟩

/-- Takes a word that stands for a value from the front of a text. -/
def word? (input : List Char) (word : String × α) : Option (Taken α input) :=
  match word.1.toList.isPrefixOf? input with
  | some rest =>
      if shorter : rest.length < input.length then some ⟨word.2, rest, shorter⟩ else none
  | none => none

end Taken

/-- A rest of a text from which nothing or something was dropped. -/
structure Rest (input : List Char) where
  text : List Char
  le : text.length ≤ input.length

def Rest.within {before input : List Char} (r : Rest input) (h : input.length ≤ before.length)
    : Rest before :=
  ⟨r.text, Nat.le_trans r.le h⟩

def Rest.inside {before input : List Char} (r : Rest input) (h : input.length < before.length)
    : Rest before :=
  r.within (Nat.le_of_lt h)

/-- Nothing becomes longer by leaving out what it begins with. -/
theorem length_dropWhile_le (p : Char → Bool) (cs : List Char)
    : (cs.dropWhile p).length ≤ cs.length :=
  (List.dropWhile_suffix p).length_le

/-- What is behind the first character is shorter. -/
theorem length_lt_of_cons {cs rest : List Char} {c : Char} {n : Nat} (h : cs = c :: rest)
    (le : cs.length ≤ n)
    : rest.length < n := by
  subst h
  exact Nat.lt_of_succ_le le

/-- What is left behind something that follows dropped characters is no longer than the text. -/
theorem Taken.length_rest_le {α : Type} {p : Char → Bool} {input : List Char}
    (t : Taken α (input.dropWhile p))
    : t.rest.length ≤ input.length :=
  Nat.le_trans (Nat.le_of_lt t.shorter) (length_dropWhile_le p input)

/-- What is behind the first character that is not left out is shorter. -/
theorem length_lt_of_dropWhile {p : Char → Bool} {cs rest : List Char} {c : Char}
    (h : cs.dropWhile p = c :: rest)
    : rest.length < cs.length :=
  length_lt_of_cons h (length_dropWhile_le p cs)

end DirectoryRoutes.Text
