import DirectoryRoutes.Data
import DirectoryRoutes.Decimal.Reading
import DirectoryRoutes.Text.Hex
import DirectoryRoutes.Text.Taken

/-! JSON documents, read in one pass. Beyond the standard the three words for numbers that are not
finite are read. A name that occurs twice in an object keeps its first place and its last value.
How deep lists and objects may be nested depends on the machine, and is given to the reader.
-/

namespace DirectoryRoutes.Json

open Text

inductive Fault where
  /-- The text breaks the grammar. -/
  | malformed
  /-- An integer has more digits than are read. -/
  | overlong
  /-- Lists and objects are nested too deeply. -/
  | tooDeep
deriving DecidableEq, Repr

/-- White space between the tokens of a document. -/
def isBlank (c : Char) : Bool :=
  c = ' ' || c = '\t' || c = '\n' || c = '\r'

def escaped? : Char → Option Char
  | '"' => some '"'
  | '\\' => some '\\'
  | '/' => some '/'
  | 'b' => some '\x08'
  | 'f' => some '\x0c'
  | 'n' => some '\n'
  | 'r' => some '\r'
  | 't' => some '\t'
  | _ => none

/-- A code unit is the first half of a pair. -/
def isHighSurrogate (unit : Nat) : Bool :=
  0xD800 ≤ unit && unit < 0xDC00

/-- A code unit is the second half of a pair. -/
def isLowSurrogate (unit : Nat) : Bool :=
  0xDC00 ≤ unit && unit < 0xE000

/-- The character of a code unit that stands alone; half a pair has none of its own and gives the
replacement character.
-/
def ofUnit (unit : Nat) : Char :=
  if isHighSurrogate unit || isLowSurrogate unit then '\ufffd' else Char.ofNat unit

def ofPair (high low : Nat) : Char :=
  Char.ofNat (0x10000 + (high - 0xD800) * 0x400 + (low - 0xDC00))

/-- The characters of code points in which pairs of escapes may stand for one character. -/
def joinPairs : List Nat → List Char
  | [] => []
  | [unit] => [ofUnit unit]
  | unit :: low :: rest =>
      if isHighSurrogate unit && isLowSurrogate low then ofPair unit low :: joinPairs rest
      else ofUnit unit :: joinPairs (low :: rest)

/-- Reads the code points of a text up to its closing mark, after those read before, latest
first.
-/
def textAfter (read : List Nat) : List Char → Option (List Nat × List Char)
  | [] => none
  | '"' :: rest => some (read.reverse, rest)
  | '\\' :: 'u' :: a :: b :: c :: d :: rest =>
      match Hex.read? [a, b, c, d] with
      | some unit => textAfter (unit :: read) rest
      | none => none
  | '\\' :: letter :: rest =>
      match escaped? letter with
      | some c => textAfter (c.toNat :: read) rest
      | none => none
  | c :: rest => if c < ' ' then none else textAfter (c.toNat :: read) rest

/-- Reading a text takes at least its closing mark, by induction along the reading. -/
theorem length_textAfter {read s : List Nat} {input rest : List Char}
    (h : textAfter read input = some (s, rest))
    : rest.length < input.length := by
  fun_induction textAfter read input <;> simp_all <;> omega

/-- A text after its opening mark. -/
def text : Reader Fault String := fun input =>
  match h : textAfter [] input with
  | some (s, rest) => .ok ⟨String.ofList (joinPairs s), rest, length_textAfter h⟩
  | none => .error .malformed

/-- The digits of the whole part of a number: a zero, or digits that begin with another one. -/
def wholeDigits : List Char → List Char × List Char
  | '0' :: rest => (['0'], rest)
  | cs => (cs.takeWhile Char.isDigit, cs.dropWhile Char.isDigit)

/-- The digits after the point and the rest, none if no point with digits follows. -/
def fractionDigits (cs : List Char) : Option (List Char) × List Char :=
  match cs with
  | '.' :: rest =>
      match rest.takeWhile Char.isDigit with
      | [] => (none, cs)
      | ds => (some ds, rest.dropWhile Char.isDigit)
  | _ => (none, cs)

def powerSign : List Char → Bool × List Char
  | '-' :: rest => (true, rest)
  | '+' :: rest => (false, rest)
  | rest => (false, rest)

/-- The power of ten and the rest, none if no exponent with digits follows. -/
def power (cs : List Char) : Option Int × List Char :=
  match cs with
  | c :: rest =>
      if c = 'e' || c = 'E' then
        match (powerSign rest).2.takeWhile Char.isDigit with
        | [] => (none, cs)
        | ds =>
            let n : Int := Decimal.valueOf ds
            (some (if (powerSign rest).1 then -n else n),
              (powerSign rest).2.dropWhile Char.isDigit)
      else (none, cs)
  | [] => (none, cs)

/-- The whole part and the rest make up the text. -/
theorem wholeDigits_append (cs : List Char) : (wholeDigits cs).1 ++ (wholeDigits cs).2 = cs := by
  unfold wholeDigits
  split
  · rfl
  · exact List.takeWhile_append_dropWhile

/-- Digits that were found were taken off the text. -/
theorem length_wholeDigits_lt {cs : List Char} (h : (wholeDigits cs).1 ≠ [])
    : (wholeDigits cs).2.length < cs.length := by
  have parts := congrArg List.length (wholeDigits_append cs)
  have := List.length_pos_iff.mpr h
  simp only [List.length_append] at parts
  omega

/-- No input becomes longer by reading a fraction. -/
theorem length_fractionDigits_le (cs : List Char) : (fractionDigits cs).2.length ≤ cs.length := by
  unfold fractionDigits
  split
  · split
    · simp
    · exact Nat.le_succ_of_le (length_dropWhile_le ..)
  · simp

/-- No input becomes longer by reading the sign of a power. -/
theorem length_powerSign_le (cs : List Char) : (powerSign cs).2.length ≤ cs.length := by
  unfold powerSign
  split <;> simp

/-- No input becomes longer by reading a power. -/
theorem length_power_le (cs : List Char) : (power cs).2.length ≤ cs.length := by
  unfold power
  split
  · rename_i c rest
    split
    · split
      · simp
      · have := length_dropWhile_le Char.isDigit (powerSign rest).2
        have := length_powerSign_le rest
        simp only [List.length_cons]
        omega
    · simp
  · simp

/-- A number after its sign. It is an integer when it has neither a fraction nor an exponent. -/
def number (negative : Bool) : Reader Fault Data := fun input =>
  let whole := wholeDigits input
  let fraction := fractionDigits whole.2
  let exponent := power fraction.2
  if h : whole.1 = [] then .error .malformed
  else
    have shorter : exponent.2.length < input.length :=
      Nat.lt_of_le_of_lt
        (Nat.le_trans (length_power_le fraction.2) (length_fractionDigits_le whole.2))
        (length_wholeDigits_lt h)
    if fraction.1.isNone && exponent.1.isNone then
      if whole.1.length > Decimal.digitLimit then .error .overlong
      else
        let n : Int := Decimal.valueOf whole.1
        .ok ⟨.int (if negative then -n else n), exponent.2, shorter⟩
    else
      let places := fraction.1.getD []
      let x := Decimal.toFloat negative (whole.1 ++ places) (exponent.1.getD 0 - places.length)
      .ok ⟨.float x, exponent.2, shorter⟩

def words : List (String × Data) :=
  [("null", .null), ("true", .bool true), ("false", .bool false), ("NaN", .float Decimal.undefined),
   ("Infinity", .float Decimal.infinity), ("-Infinity", .float (-Decimal.infinity))]

/-- A value that is neither text, list nor object. -/
def scalar : Reader Fault Data := fun input =>
  match words.findSome? (Taken.word? input) with
  | some taken => .ok taken
  | none =>
      match input with
      | '-' :: rest => do
          let n ← number true rest
          .ok n.afterFirst
      | digits => number false digits

/-- The items of a list from the first one on, up to the closing bracket. -/
def items (item : Reader Fault Data) (input : List Char)
    : Except Fault (Taken (List Data) input) := do
  let first ← item input
  match h : first.rest.dropWhile isBlank with
  | ',' :: rest =>
      have shorter : (rest.dropWhile isBlank).length < input.length :=
        Nat.lt_of_le_of_lt (length_dropWhile_le isBlank rest)
          (Nat.lt_trans (length_lt_of_dropWhile h) first.shorter)
      let others ← items item (rest.dropWhile isBlank)
      .ok ((others.map (first.value :: ·)).inside shorter)
  | ']' :: rest =>
      .ok ⟨[first.value], rest, Nat.lt_trans (length_lt_of_dropWhile h) first.shorter⟩
  | _ => .error .malformed
termination_by input.length

/-- A name, a colon and a value. -/
def field (value : Reader Fault Data) (input : List Char)
    : Except Fault (Taken (String × Data) input) :=
  match input with
  | '"' :: rest => do
      let name ← text rest
      match h : name.rest.dropWhile isBlank with
      | ':' :: afterColon =>
          let v ← value (afterColon.dropWhile isBlank)
          have shorter : (afterColon.dropWhile isBlank).length < rest.length :=
            Nat.lt_of_le_of_lt (length_dropWhile_le isBlank afterColon)
              (Nat.lt_trans (length_lt_of_dropWhile h) name.shorter)
          .ok ((v.map fun d => (name.value, d)).inside shorter).afterFirst
      | _ => .error .malformed
  | _ => .error .malformed

/-- The fields of an object from the first one on, up to the closing brace, added to those read
before.
-/
def fields (value : Reader Fault Data) (read : List (String × Data)) (input : List Char)
    : Except Fault (Taken (List (String × Data)) input) := do
  let first ← field value input
  let read := Table.set first.value.1 first.value.2 read
  match h : first.rest.dropWhile isBlank with
  | ',' :: rest =>
      have shorter : (rest.dropWhile isBlank).length < input.length :=
        Nat.lt_of_le_of_lt (length_dropWhile_le isBlank rest)
          (Nat.lt_trans (length_lt_of_dropWhile h) first.shorter)
      let all ← fields value read (rest.dropWhile isBlank)
      .ok (all.inside shorter)
  | '}' :: rest =>
      .ok ⟨read, rest, Nat.lt_trans (length_lt_of_dropWhile h) first.shorter⟩
  | _ => .error .malformed
termination_by input.length

/-- A list or an object after its opening character, given a reader of the values inside. -/
def container (opening : Char) (value : Reader Fault Data) : Reader Fault Data := fun input =>
  match h : input.dropWhile isBlank with
  | c :: rest =>
      have le : (c :: rest).length ≤ input.length := h ▸ length_dropWhile_le isBlank input
      if opening = '[' then
        if c = ']' then .ok ⟨.list [], rest, Nat.lt_of_succ_le le⟩
        else do
          let all ← items value (c :: rest)
          .ok ((all.map .list).within le)
      else
        if c = '}' then .ok ⟨.record [], rest, Nat.lt_of_succ_le le⟩
        else do
          let all ← fields value [] (c :: rest)
          .ok ((all.map .record).within le)
  | [] => .error .malformed

/-- A value that begins right here, with at most `depth` lists and objects inside one another. -/
def value (depth : Nat) : Reader Fault Data := fun input =>
  match input with
  | [] => .error .malformed
  | c :: rest =>
      if c = '"' then do
        let s ← text rest
        .ok (s.map .text).afterFirst
      else if c = '[' || c = '{' then
        match depth with
        | 0 => .error .tooDeep
        | depth + 1 => do
            let d ← container c (value depth) rest
            .ok d.afterFirst
      else scalar (c :: rest)

/-- The value of a document whose lists and objects may be nested to a depth. -/
def read (depth : Nat) (document : List Char) : Except Fault Data := do
  let taken ← value depth (document.dropWhile isBlank)
  match taken.rest.dropWhile isBlank with
  | [] => .ok taken.value
  | _ => .error .malformed

end DirectoryRoutes.Json
