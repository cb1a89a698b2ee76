import DirectoryRoutes.Text.Utf8
import Mathlib.Algebra.Ring.Nat

/-! UTF-8 as it is written and as it is read. Octets are read as a text if and only if they are its
encoding, so what is not read encodes no text at all.
-/

namespace DirectoryRoutes.Text.Utf8

def encode (text : List Char) : List UInt8 :=
  text.flatMap String.utf8EncodeChar

-----------------------------------------------------------------------------------------
-- The octets of a character
-----------------------------------------------------------------------------------------

/-- The code point of a character with so many octets after the first one. -/
inductive Width : Nat → Nat → Prop where
  | one {code : Nat} (high : code < 0x80) : Width 0 code
  | two {code : Nat} (low : 0x80 ≤ code) (high : code < 0x800) : Width 1 code
  | three {code : Nat} (low : 0x800 ≤ code) (high : code < 0x10000)
      (scalar : code < 0xD800 ∨ 0xE000 ≤ code)
    : Width 2 code
  | four {code : Nat} (low : 0x10000 ≤ code) (high : code < 0x110000) : Width 3 code

/-- The bits by which a first octet tells how many are to come. -/
def mark : Nat → Nat
  | 0 => 0
  | 1 => 0xC0
  | 2 => 0xE0
  | _ => 0xF0

/-- The last octets of a code point: six bits in each, the higher ones first. -/
def trail : Nat → Nat → List UInt8
  | 0, _ => []
  | count + 1, code => UInt8.ofNat (code / 64 ^ count % 64 + 128) :: trail count code

/-- Every character has a width, by cases on the bounds of the widths. -/
theorem exists_width (c : Char) : ∃ count, Width count c.toNat := by
  have scalar : c.toNat < 0xD800 ∨ 0xDFFF < c.toNat ∧ c.toNat < 0x110000 := c.valid
  by_cases one : c.toNat < 0x80
  · exact ⟨0, .one one⟩
  by_cases two : c.toNat < 0x800
  · exact ⟨1, .two (by omega) two⟩
  by_cases three : c.toNat < 0x10000
  · exact ⟨2, .three (by omega) three (by omega)⟩
  · exact ⟨3, .four (by omega) (by omega)⟩

/-- Every number with a width is the one of a character. -/
theorem Width.exists_char {count code : Nat} (width : Width count code)
    : ∃ c : Char, c.toNat = code := by
  have valid : code.isValidChar := by
    cases width <;> simp only [Nat.isValidChar] <;> omega
  exact ⟨Char.ofNatAux code valid, rfl⟩

/-- A character is encoded by its mark with the highest bits, and the other bits in order. -/
theorem Width.encodeChar {count : Nat} {c : Char} (width : Width count c.toNat)
    : String.utf8EncodeChar c
      = UInt8.ofNat (mark count + c.toNat / 64 ^ count) :: trail count c.toNat := by
  have code : c.val.toNat = c.toNat := rfl
  unfold String.utf8EncodeChar
  simp only [code]
  generalize c.toNat = code at width
  cases width with
  | one high => rw [if_pos (by omega), mark, Nat.pow_zero, Nat.div_one, Nat.zero_add, trail]
  | two low high =>
      rw [if_neg (by omega), if_pos (by omega)]
      simp only [mark, trail, Nat.reducePow, Nat.div_one]
      congr 2
      omega
  | three low high scalar =>
      rw [if_neg (by omega), if_neg (by omega), if_pos (by omega)]
      simp only [mark, trail, Nat.reducePow, Nat.div_one]
      congr 2
      omega
  | four low high =>
      rw [if_neg (by omega), if_neg (by omega), if_neg (by omega)]
      simp only [mark, trail, Nat.reducePow, Nat.div_one]
      congr 2
      omega

/-- The first octet of a code is within the octets. -/
theorem Width.first_lt {count code : Nat} (width : Width count code)
    : mark count + code / 64 ^ count < 256 := by
  cases width <;> simp only [mark, Nat.reducePow] <;> omega

-----------------------------------------------------------------------------------------
-- What an octet begins
-----------------------------------------------------------------------------------------

/-- At least one octet is to come, and it holds six bits. -/
structure Begun.Sound (b : Begun) : Prop where
  missing : 0 < b.missing
  low : 0x80 ≤ b.low
  high : b.high ≤ 0xBF

/-- The code point begins with the bits that have been read, and the octet after them is one that
may come next.
-/
structure Begun.Awaits (b : Begun) (code : Nat) : Prop where
  bits : code / 64 ^ b.missing = b.bits
  low : b.low ≤ code / 64 ^ (b.missing - 1) % 64 + 0x80
  high : code / 64 ^ (b.missing - 1) % 64 + 0x80 ≤ b.high

/-- What an octet starts, by the range in which it lies. -/
inductive Starts (octet : UInt8) : Step → Prop where
  | one (high : octet.toNat < 0x80) : Starts octet (.character (Char.ofNat octet.toNat))
  | two (low : 0xC2 ≤ octet.toNat) (high : octet.toNat < 0xE0)
    : Starts octet (.begun ⟨octet, 1, 1, 0x80, 0xBF, octet.toNat - 0xC0⟩)
  | three (low : 0xE0 ≤ octet.toNat) (high : octet.toNat < 0xF0)
    : Starts octet
        (.begun ⟨octet, 1, 2, if octet.toNat = 0xE0 then 0xA0 else 0x80,
          if octet.toNat = 0xED then 0x9F else 0xBF, octet.toNat - 0xE0⟩)
  | four (low : 0xF0 ≤ octet.toNat) (high : octet.toNat < 0xF5)
    : Starts octet
        (.begun ⟨octet, 1, 3, if octet.toNat = 0xF0 then 0x90 else 0x80,
          if octet.toNat = 0xF4 then 0x8F else 0xBF, octet.toNat - 0xF0⟩)
  | none (outside : 0x80 ≤ octet.toNat ∧ octet.toNat < 0xC2 ∨ 0xF5 ≤ octet.toNat)
    : Starts octet .refused

/-- An octet starts what the table of first octets says, by cases on the ranges. -/
theorem starts_start (octet : UInt8) : Starts octet (start octet) := by
  unfold start
  simp only
  split
  · exact .one ‹_›
  split
  · exact .none (by omega)
  split
  · exact .two (by omega) ‹_›
  split
  · exact .three (by omega) ‹_›
  split
  · exact .four (by omega) ‹_›
  · exact .none (by omega)

/-- An octet is a character by itself if and only if it encodes it alone. -/
theorem start_eq_character_iff {octet : UInt8} {c : Char}
    : start octet = .character c ↔ Width 0 c.toNat ∧ octet.toNat = c.toNat := by
  have started := starts_start octet
  constructor
  · intro same
    rw [same] at started
    obtain ⟨high⟩ := started
    obtain ⟨c, code⟩ := (Width.one high).exists_char
    rw [← code, Char.ofNat_toNat]
    exact ⟨.one (by omega), rfl⟩
  · intro single
    obtain ⟨⟨high⟩, code⟩ := single
    generalize start octet = step at *
    cases started with
    | one _ => rw [code, Char.ofNat_toNat]
    | _ => omega

/-- What a first octet begins is sound. -/
theorem sound_of_start {octet : UInt8} {b : Begun} (begun : start octet = .begun b) : b.Sound := by
  have started := starts_start octet
  rw [begun] at started
  cases started <;> constructor <;> simp <;> split <;> omega

/-- An octet begins a code point if and only if it is its mark with its highest bits: the bounds for
the next octet exclude what would fit into fewer octets, what is no character, and what is too
large.
-/
theorem start_eq_begun_iff {octet : UInt8} {count code : Nat}
    : (∃ b, start octet = .begun b ∧ b.missing = count ∧ b.Awaits code)
      ↔ 0 < count ∧ Width count code ∧ octet.toNat = mark count + code / 64 ^ count := by
  have started := starts_start octet
  constructor
  · intro beginning
    obtain ⟨b, same, rfl, awaits⟩ := beginning
    refine ⟨(sound_of_start same).missing, ?_⟩
    obtain ⟨bits, low, high⟩ := awaits
    rw [same] at started
    cases started with
    | two first last =>
        simp only [mark, Nat.reducePow, Nat.reduceSub] at *
        exact ⟨.two (by omega) (by omega), by omega⟩
    | three first last =>
        simp only [mark, Nat.reducePow, Nat.reduceSub] at *
        exact ⟨.three (by split at low <;> omega) (by omega) (by split at high <;> omega), by omega⟩
    | four first last =>
        simp only [mark, Nat.reducePow, Nat.reduceSub] at *
        exact ⟨.four (by split at low <;> omega) (by split at high <;> omega), by omega⟩
  · intro marked
    obtain ⟨more, width, first⟩ := marked
    generalize start octet = step at *
    cases width with
    | one _ => omega
    | two low high =>
        simp only [mark, Nat.reducePow] at first
        cases started with
        | two _ _ =>
            refine ⟨_, rfl, rfl, ⟨?_, ?_, ?_⟩⟩ <;> simp <;> omega
        | _ => omega
    | three low high scalar =>
        simp only [mark, Nat.reducePow] at first
        cases started with
        | three _ _ =>
            refine ⟨_, rfl, rfl, ⟨?_, ?_, ?_⟩⟩ <;> simp <;> (try split) <;> omega
        | _ => omega
    | four low high =>
        simp only [mark, Nat.reducePow] at first
        cases started with
        | four _ _ =>
            refine ⟨_, rfl, rfl, ⟨?_, ?_, ?_⟩⟩ <;> simp <;> (try split) <;> omega
        | _ => omega

-----------------------------------------------------------------------------------------
-- Runs of octets
-----------------------------------------------------------------------------------------

/-- An octet is given by its number. -/
theorem eq_ofNat_iff {octet : UInt8} {n : Nat} (small : n < 256)
    : octet = UInt8.ofNat n ↔ octet.toNat = n := by
  rw [← UInt8.toNat_inj, UInt8.toNat_ofNat_of_lt' small]

/-- The bits of a begun character with those of one more octet. -/
def Begun.bitsWith (b : Begun) (octet : UInt8) : Nat :=
  b.bits * 64 + (octet.toNat - 0x80)

/-- The next octet is refused, or it ends the character, or more octets are missing. -/
theorem Begun.next_eq (b : Begun) (octet : UInt8)
    : b.next octet
      = if octet.toNat < b.low || b.high < octet.toNat then .refused
        else if b.missing ≤ 1 then .character (Char.ofNat (b.bitsWith octet))
        else
          .begun ⟨b.first, b.length + 1, b.missing - 1, 0x80, 0xBF, b.bitsWith octet⟩ :=
  rfl

/-- An octet is the next one of an awaited code point if and only if it lies in the bounds and its
six bits are the next ones of the code point.
-/
theorem Begun.Sound.awaits_and_next_iff {b : Begun} {count : Nat} (sound : b.Sound)
    (missing : b.missing = count + 1) (octet : UInt8) (code : Nat)
    : b.Awaits code ∧ octet = UInt8.ofNat (code / 64 ^ count % 64 + 0x80)
      ↔ (b.low ≤ octet.toNat ∧ octet.toNat ≤ b.high) ∧ code / 64 ^ count = b.bitsWith octet := by
  have least := sound.low
  have greatest := sound.high
  have higher : code / 64 ^ (count + 1) = code / 64 ^ count / 64 := by
    rw [Nat.pow_succ, Nat.div_div_eq_div_mul]
  rw [eq_ofNat_iff (by omega)]
  unfold bitsWith
  constructor
  · intro both
    obtain ⟨⟨bits, low, high⟩, same⟩ := both
    rw [missing] at bits low high
    rw [Nat.add_sub_cancel] at low high
    omega
  · intro both
    obtain ⟨⟨low, high⟩, same⟩ := both
    refine ⟨⟨?_, ?_, ?_⟩, ?_⟩
    · rw [missing, higher]
      omega
    · rw [missing, Nat.add_sub_cancel]
      omega
    · rw [missing, Nat.add_sub_cancel]
      omega
    · omega

/-- An octet in the bounds of a character that misses more than one goes on with it, and any octet
may then come next.
-/
theorem Begun.exists_next {b : Begun} {count : Nat} {octet : UInt8} (missing : b.missing = count + 2)
    (inside : b.low ≤ octet.toNat ∧ octet.toNat ≤ b.high)
    : ∃ more,
        b.next octet = .begun more
        ∧ more.Sound
        ∧ more.missing = count + 1
        ∧ ∀ code, more.Awaits code ↔ code / 64 ^ (count + 1) = b.bitsWith octet := by
  refine ⟨⟨b.first, b.length + 1, count + 1, 0x80, 0xBF, b.bitsWith octet⟩, ?_, ?_, rfl, ?_⟩
  · simp [Begun.next_eq, missing, inside]
  · exact ⟨Nat.succ_pos count, Nat.le_refl _, Nat.le_refl _⟩
  · intro code
    constructor
    · exact Begun.Awaits.bits
    · intro bits
      have six : code / 64 ^ count % 64 < 64 := Nat.mod_lt _ (by decide)
      exact ⟨bits, Nat.le_add_left _ _, Nat.add_le_add_right (Nat.le_of_lt_succ six) 0x80⟩

/-- Behind a begun character octets are read if and only if the rest of a code point that it awaits
comes first, by induction on the octets to come.
-/
theorem decodeFrom_begun_iff {position count : Nat} {b : Begun} {read text : List Char}
    {octets : List UInt8} (sound : b.Sound) (missing : b.missing = count)
    : decodeFrom position (some b) read octets = .ok text
      ↔ ∃ code rest,
          b.Awaits code
          ∧ octets = trail count code ++ rest
          ∧ decodeFrom (position + count) none (Char.ofNat code :: read) rest = .ok text := by
  induction count generalizing position b octets with
  | zero => exact absurd sound.missing (by omega)
  | succ count ih =>
      cases octets with
      | nil => simp [decodeFrom, trail]
      | cons octet others =>
          have next := sound.awaits_and_next_iff missing octet
          simp only [trail, List.cons_append, List.cons.injEq, ← and_assoc, next]
          by_cases inside : b.low ≤ octet.toNat ∧ octet.toNat ≤ b.high
          · cases count with
            | zero =>
                have ended : b.next octet = .character (Char.ofNat (b.bitsWith octet)) := by
                  simp [Begun.next_eq, missing, inside]
                simp [decodeFrom, ended, inside, trail, and_assoc]
            | succ count =>
                obtain ⟨more, goesOn, sound, missing, awaits⟩ := Begun.exists_next missing inside
                simp only [decodeFrom, goesOn]
                rw [ih sound missing]
                simp only [awaits, and_iff_right inside, and_assoc, Nat.add_assoc, Nat.add_comm 1]
          · have refused : b.next octet = .refused := by
              rw [Begun.next_eq, if_pos]
              simp only [Bool.or_eq_true, decide_eq_true_eq]
              omega
            simp [decodeFrom, refused, inside]

-----------------------------------------------------------------------------------------
-- Texts
-----------------------------------------------------------------------------------------

/-- A trail has as many octets as are counted, by induction on the count. -/
theorem length_trail (count code : Nat) : (trail count code).length = count := by
  induction count with
  | zero => rfl
  | succ count ih => simp [trail, ih]

/-- The first octet of a character is the character by itself, or it begins one that awaits the
others.
-/
theorem encodeChar_eq_cons_iff {c : Char} {octet : UInt8} {tail : List UInt8}
    : String.utf8EncodeChar c = octet :: tail
      ↔ (start octet = .character c ∧ tail = [])
        ∨ ∃ b, start octet = .begun b ∧ b.Awaits c.toNat ∧ tail = trail b.missing c.toNat := by
  constructor
  · intro encoded
    obtain ⟨count, width⟩ := exists_width c
    rw [width.encodeChar, List.cons.injEq, eq_comm, eq_ofNat_iff width.first_lt] at encoded
    obtain ⟨first, rfl⟩ := encoded
    cases count with
    | zero => exact Or.inl ⟨start_eq_character_iff.mpr ⟨width, by simpa [mark] using first⟩, rfl⟩
    | succ count =>
        obtain ⟨b, begun, missing, awaits⟩ :=
          start_eq_begun_iff.mpr ⟨Nat.succ_pos count, width, first⟩
        exact Or.inr ⟨b, begun, awaits, by rw [missing]⟩
  · intro started
    rcases started with ⟨single, rfl⟩ | ⟨b, begun, awaits, rfl⟩
    · obtain ⟨width, first⟩ := start_eq_character_iff.mp single
      rw [width.encodeChar, List.cons.injEq, eq_comm, eq_ofNat_iff width.first_lt]
      exact ⟨by simpa [mark] using first, rfl⟩
    · obtain ⟨_, width, first⟩ := start_eq_begun_iff.mp ⟨b, begun, rfl, awaits⟩
      rw [width.encodeChar, List.cons.injEq, eq_comm, eq_ofNat_iff width.first_lt]
      exact ⟨first, rfl⟩

/-- Octets are read from between characters if and only if a character comes first. -/
theorem decodeFrom_cons_iff {position : Nat} {read text : List Char} {octet : UInt8}
    {octets : List UInt8}
    : decodeFrom position none read (octet :: octets) = .ok text
      ↔ ∃ c tail rest,
          String.utf8EncodeChar c = octet :: tail
          ∧ octets = tail ++ rest
          ∧ decodeFrom (position + 1 + tail.length) none (c :: read) rest = .ok text := by
  simp only [encodeChar_eq_cons_iff]
  cases started : start octet with
  | character c => simp [decodeFrom, started, and_assoc]
  | refused => simp [decodeFrom, started]
  | begun b =>
      simp only [decodeFrom, started, decodeFrom_begun_iff (sound_of_start started) rfl]
      constructor
      · intro found
        obtain ⟨code, rest, awaits, rfl, later⟩ := found
        obtain ⟨_, width, _⟩ := start_eq_begun_iff.mp ⟨b, started, rfl, awaits⟩
        obtain ⟨c, rfl⟩ := width.exists_char
        rw [Char.ofNat_toNat] at later
        refine ⟨c, _, rest, Or.inr ⟨b, rfl, awaits, rfl⟩, rfl, ?_⟩
        rwa [length_trail]
      · intro found
        obtain ⟨c, tail, rest, ⟨same, _⟩ | ⟨b', same, awaits, rfl⟩, rfl, later⟩ := found
        · cases same
        · cases same
          rw [length_trail] at later
          exact ⟨c.toNat, rest, awaits, rfl, by rwa [Char.ofNat_toNat]⟩

/-- The octets of the first character come first. -/
theorem encode_cons (c : Char) (rest : List Char)
    : encode (c :: rest) = String.utf8EncodeChar c ++ encode rest :=
  List.flatMap_cons

/-- Octets encode a text if the first ones encode its first character, and the others the rest. -/
theorem cons_eq_encode_iff {octet : UInt8} {octets : List UInt8} {text : List Char}
    : octet :: octets = encode text
      ↔ ∃ c tail more,
          text = c :: more
          ∧ String.utf8EncodeChar c = octet :: tail
          ∧ octets = tail ++ encode more := by
  constructor
  · intro encoded
    cases text with
    | nil => simp [encode] at encoded
    | cons c more =>
        rw [encode_cons] at encoded
        cases first : String.utf8EncodeChar c with
        | nil => exact absurd first String.utf8EncodeChar_ne_nil
        | cons octet' tail =>
            rw [first, List.cons_append, List.cons.injEq] at encoded
            exact ⟨c, tail, more, rfl, by rw [first, encoded.1], encoded.2⟩
  · intro found
    obtain ⟨c, tail, more, rfl, first, rfl⟩ := found
    rw [encode_cons, first, List.cons_append]

/-- Octets are read from between characters if and only if they encode a text, which comes behind
what has been read, by induction on the number of octets.
-/
theorem decodeFrom_eq_ok_iff {position : Nat} {read text : List Char} {octets : List UInt8}
    : decodeFrom position none read octets = .ok text
      ↔ ∃ more, octets = encode more ∧ text = read.reverse ++ more := by
  induction size : octets.length using Nat.strongRecOn generalizing position read octets with
  | _ count ih =>
      cases octets with
      | nil =>
          constructor
          · intro done
            exact ⟨[], rfl, by simpa [decodeFrom, eq_comm] using done⟩
          · intro found
            obtain ⟨more, empty, rfl⟩ := found
            cases more with
            | nil => simp [decodeFrom]
            | cons c more => simp [encode_cons] at empty
      | cons octet octets =>
          simp only [decodeFrom_cons_iff, cons_eq_encode_iff]
          constructor
          · intro found
            obtain ⟨c, tail, rest, first, rfl, later⟩ := found
            have shorter : rest.length < count := by
              rw [← size, List.length_cons, List.length_append]
              omega
            obtain ⟨more, rfl, rfl⟩ := (ih rest.length shorter rfl).mp later
            exact ⟨c :: more, ⟨c, tail, more, rfl, first, rfl⟩, by simp⟩
          · intro found
            obtain ⟨_, ⟨c, tail, more, rfl, first, rfl⟩, rfl⟩ := found
            have shorter : (encode more).length < count := by
              rw [← size, List.length_cons, List.length_append]
              omega
            refine ⟨c, tail, encode more, first, rfl, ?_⟩
            exact (ih (encode more).length shorter rfl).mpr ⟨more, rfl, by simp⟩

/-- Octets are read as a text if and only if they are its encoding. -/
theorem decode_eq_ok_iff {octets : List UInt8} {text : List Char}
    : decode octets = .ok text ↔ octets = encode text := by
  simp [decode, decodeFrom_eq_ok_iff]

/-- No two texts have the same octets, since what encodes a text is decoded to it. -/
theorem encode_injective : Function.Injective encode := by
  intro text text' same
  have decoded := decode_eq_ok_iff.mpr same
  rw [decode_eq_ok_iff.mpr rfl] at decoded
  exact Except.ok.inj decoded

/-- Octets are not read if and only if they encode no text. -/
theorem exists_decode_eq_error_iff {octets : List UInt8}
    : (∃ fault, decode octets = .error fault) ↔ ∀ text, octets ≠ encode text := by
  simp only [ne_eq, ← decode_eq_ok_iff]
  cases decode octets <;> simp

end DirectoryRoutes.Text.Utf8
