import DirectoryRoutes.Text.Hex
import DirectoryRoutes.Text.Taken
import DirectoryRoutes.Toml.Fault

/-! Texts in TOML documents: between single or double marks, on one line or over several, with
escapes between double marks only.
-/

namespace DirectoryRoutes.Toml

open Text

/-- A text in which every line ends the same way: a carriage return before a line feed says nothing
of its own.
-/
def unifyBreaks : List Char → List Char
  | '\r' :: '\n' :: rest => '\n' :: unifyBreaks rest
  | c :: rest => c :: unifyBreaks rest
  | [] => []

/-- A fault right before a rest. -/
def fault {α : Type} (cause : Cause) (rest : List Char) : Except Fault α :=
  .error ⟨cause, rest.length⟩

def isBlank (c : Char) : Bool :=
  c = ' ' || c = '\t'

def isBlankOrBreak (c : Char) : Bool :=
  isBlank c || c = '\n'

/-- Takes the white space after what was taken, too. -/
def takeBlank {α : Type} {input : List Char} (t : Taken α input) : Taken α input :=
  ⟨t.value, t.rest.dropWhile isBlank,
    Nat.lt_of_le_of_lt (length_dropWhile_le isBlank t.rest) t.shorter⟩

/-- A control character, which stands in no text and in no comment. Texts over several lines may
hold line breaks.
-/
def isIllegal (multiline : Bool) (c : Char) : Bool :=
  (c < ' ' || c = '\x7f') && c ≠ '\t' && !(multiline && c = '\n')

/-- The characters before the first occurrence of a mark and the text from it on. -/
def splitAtMark (mark : List Char) : List Char → Option (List Char × List Char)
  | [] => none
  | c :: cs =>
      if mark.isPrefixOf (c :: cs) then some ([], c :: cs)
      else (splitAtMark mark cs).map fun (before, rest) => (c :: before, rest)

/-- What stands from the mark on is no longer than the text, by induction on the text. -/
theorem length_splitAtMark_le {mark input before rest : List Char}
    (h : splitAtMark mark input = some (before, rest))
    : rest.length ≤ input.length := by
  induction input generalizing before rest with
  | nil => simp [splitAtMark] at h
  | cons c cs ih =>
      unfold splitAtMark at h
      split at h
      · simp at h
        simp [← h.2]
      · obtain ⟨⟨before', rest'⟩, hs, he⟩ := Option.map_eq_some_iff.mp h
        simp at he
        have := ih hs
        simp only [List.length_cons, ← he.2]
        omega

/-- Refuses the first illegal character before a rest. -/
def checkLegal (multiline : Bool) (cs rest : List Char) : Except Fault Unit :=
  match cs.dropWhile fun c => !isIllegal multiline c with
  | [] => .ok ()
  | c :: more => .error ⟨.invalidCharacter c, (c :: more).length + rest.length⟩

/-- A text without escapes after its opening marks, up to and with the closing ones. -/
def literalText (multiline : Bool) (mark : String) : Reader Fault (List Char) := fun input =>
  match h : splitAtMark mark.toList input with
  | none => .error ⟨.expectedMark mark, 0⟩
  | some (cs, []) => fault (.expectedMark mark) cs
  | some (cs, c :: rest) => do
      checkLegal multiline cs (c :: rest)
      have dropped : (rest.drop (mark.length - 1)).length ≤ rest.length :=
        (List.drop_suffix ..).length_le
      .ok ⟨cs, rest.drop (mark.length - 1),
        Nat.lt_of_le_of_lt dropped (Nat.lt_of_succ_le (length_splitAtMark_le h))⟩

def escaped? : Char → Option Char
  | 'b' => some '\x08'
  | 't' => some '\t'
  | 'n' => some '\n'
  | 'f' => some '\x0c'
  | 'r' => some '\r'
  | '"' => some '"'
  | '\\' => some '\\'
  | _ => none

/-- A code point of a fixed number of hexadecimal digits. -/
def codePoint (width : Nat) (input : List Char) : Except Fault (Char × List Char) :=
  if (input.take width).length < width then fault .invalidHex input
  else
    match Hex.read? (input.take width) with
    | some n =>
        if n < 0xD800 || (0xE000 ≤ n && n < 0x110000) then .ok (Char.ofNat n, input.drop width)
        else fault .notScalar (input.drop width)
    | none => fault .invalidHex input

/-- What an escape stands for, after its backslash. Over several lines an escaped line break
stands, with all white space around it, for nothing.
-/
def escape (multiline : Bool) : List Char → Except Fault (List Char × List Char)
  | [] => fault .loneBackslash []
  | c :: rest =>
      if multiline && c = '\n' then .ok ([], rest.dropWhile isBlankOrBreak)
      else if multiline && isBlank c then
        match rest.dropWhile isBlank with
        | [] => .ok ([], [])
        | '\n' :: more => .ok ([], more.dropWhile isBlankOrBreak)
        | more => fault .loneBackslash more
      else if c = 'u' then do
        let (x, more) ← codePoint 4 rest
        .ok ([x], more)
      else if c = 'U' then do
        let (x, more) ← codePoint 8 rest
        .ok ([x], more)
      else
        match escaped? c with
        | some x => .ok ([x], rest)
        | none => fault .loneBackslash rest

/-- No input becomes longer by reading the digits of a character. -/
theorem length_codePoint_le {width : Nat} {input rest : List Char} {x : Char}
    (h : codePoint width input = .ok (x, rest))
    : rest.length ≤ input.length := by
  unfold codePoint fault at h
  grind

/-- An escape takes a character at least. -/
theorem length_escape_lt {multiline : Bool} {input cs rest : List Char}
    (h : escape multiline input = .ok (cs, rest))
    : rest.length < input.length := by
  unfold escape fault at h
  split at h
  · simp at h
  · rename_i c after
    have blank := length_dropWhile_le isBlank after
    have dropped := length_dropWhile_le isBlankOrBreak
    split at h
    · have := dropped after
      grind
    · split at h
      · split at h
        · grind
        · rename_i more hm
          have := dropped more
          grind
        · grind
      · split at h
        · cases hc : codePoint 4 after with
          | error e => simp [hc, bind, Except.bind] at h
          | ok found =>
              have := length_codePoint_le hc
              simp [hc, bind, Except.bind] at h
              grind
        · split at h
          · cases hc : codePoint 8 after with
            | error e => simp [hc, bind, Except.bind] at h
            | ok found =>
                have := length_codePoint_le hc
                simp [hc, bind, Except.bind] at h
                grind
          · grind

/-- A text with escapes after its opening marks, up to and with the closing ones, after the
characters read before, latest first.
-/
def basicText (multiline : Bool) (read : List Char) (input : List Char)
    : Except Fault (Taken (List Char) input) :=
  match input with
  | [] => fault .unterminatedString []
  | '"' :: rest =>
      if multiline then
        match rest with
        | '"' :: '"' :: more => .ok ⟨read.reverse, more,
            Nat.lt_succ_of_lt (Nat.lt_succ_of_lt (Nat.lt_succ_self _))⟩
        | rest => do
            let all ← basicText multiline ('"' :: read) rest
            .ok all.afterFirst
      else .ok ⟨read.reverse, rest, Nat.lt_succ_self _⟩
  | '\\' :: after =>
      match h : escape multiline after with
      | .error e => .error e
      | .ok (cs, rest) =>
          have := length_escape_lt h
          do
            let all ← basicText multiline (cs ++ read) rest
            .ok (all.within (Nat.le_succ_of_le (Nat.le_of_lt this)))
  | c :: rest =>
      if isIllegal multiline c then fault (.illegalCharacter c) (c :: rest)
      else do
        let all ← basicText multiline (c :: read) rest
        .ok all.afterFirst
termination_by input.length

/-- Up to two marks may stand right before the three that close a text over several lines; they
belong to it.
-/
def closingMarks {input : List Char} (mark : Char) (t : Taken (List Char) input)
    : Taken (List Char) input :=
  match h : t.rest with
  | a :: b :: rest =>
      if a = mark then
        if b = mark then
          ⟨t.value ++ [mark, mark], rest,
            Nat.lt_of_succ_lt (length_lt_of_cons h (Nat.le_of_lt t.shorter))⟩
        else
          ⟨t.value ++ [mark], b :: rest, length_lt_of_cons h (Nat.le_of_lt t.shorter)⟩
      else t
  | [a] =>
      if a = mark then
        ⟨t.value ++ [mark], [], length_lt_of_cons h (Nat.le_of_lt t.shorter)⟩
      else t
  | [] => t

/-- The text after a line break that comes first. -/
def skipBreak : List Char → List Char
  | '\n' :: rest => rest
  | cs => cs

/-- No input becomes longer by leaving out a line break. -/
theorem length_skipBreak_le (cs : List Char) : (skipBreak cs).length ≤ cs.length := by
  unfold skipBreak
  split <;> simp

def anyText : Reader Fault (List Char)
  | '"' :: '"' :: '"' :: rest => do
      let t ← basicText true [] (skipBreak rest)
      .ok ((closingMarks '"' t).within (length_skipBreak_le rest)).afterFirst.afterFirst.afterFirst
  | '"' :: rest => do
      let t ← basicText false [] rest
      .ok t.afterFirst
  | '\'' :: '\'' :: '\'' :: rest => do
      let t ← literalText true "'''" (skipBreak rest)
      .ok ((closingMarks '\'' t).within (length_skipBreak_le rest)).afterFirst.afterFirst.afterFirst
  | '\'' :: rest => do
      let t ← literalText false "'" rest
      .ok t.afterFirst
  | cs => fault .invalidValue cs

end DirectoryRoutes.Toml
