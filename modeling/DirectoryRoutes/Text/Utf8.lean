import DirectoryRoutes.Text.Hex

/-! UTF-8, read one octet at a time. Overlong forms, surrogates and code points above the last
plane are refused at the first octet that rules every character out, so a fault spans the longest
run of octets that could still have begun a character.
-/

namespace DirectoryRoutes.Text.Utf8

/-- A character of which some octets have been read and at least one is to come. -/
structure Begun where
  first : UInt8
  /-- The octets read so far. -/
  length : Nat
  /-- The octets to come. -/
  missing : Nat
  /-- The least value that the next octet may take. -/
  low : Nat
  /-- The greatest value that the next octet may take. -/
  high : Nat
  bits : Nat

/-- What one more octet leads to. -/
inductive Step where
  | character (c : Char)
  | begun (b : Begun)
  | refused

/-- An octet where a character may begin. -/
def start (octet : UInt8) : Step :=
  let n := octet.toNat
  if n < 0x80 then .character (Char.ofNat n)
  else if n < 0xC2 then .refused
  else if n < 0xE0 then .begun ⟨octet, 1, 1, 0x80, 0xBF, n - 0xC0⟩
  else if n < 0xF0 then
    .begun ⟨octet, 1, 2, if n = 0xE0 then 0xA0 else 0x80, if n = 0xED then 0x9F else 0xBF, n - 0xE0⟩
  else if n < 0xF5 then
    .begun ⟨octet, 1, 3, if n = 0xF0 then 0x90 else 0x80, if n = 0xF4 then 0x8F else 0xBF, n - 0xF0⟩
  else .refused

/-- An octet that goes on with a begun character. -/
def Begun.next (b : Begun) (octet : UInt8) : Step :=
  let n := octet.toNat
  if n < b.low || b.high < n then .refused
  else
    let bits := b.bits * 64 + (n - 0x80)
    if b.missing ≤ 1 then .character (Char.ofNat bits)
    else .begun ⟨b.first, b.length + 1, b.missing - 1, 0x80, 0xBF, bits⟩

inductive Reason where
  | startOctet
  | continuationOctet
  | endOfData
deriving DecidableEq, Repr

/-- The first place at which octets are not UTF-8. -/
structure Fault where
  reason : Reason
  /-- The octets before the faulty ones. -/
  position : Nat
  first : UInt8
  /-- The number of faulty octets. -/
  length : Nat
deriving DecidableEq, Repr

def Reason.message : Reason → String
  | .startOctet => "invalid start byte"
  | .continuationOctet => "invalid continuation byte"
  | .endOfData => "unexpected end of data"

/-- The wording of a fault; a single octet is shown, a run of them only located. -/
def Fault.message (f : Fault) : String :=
  let place :=
    if f.length = 1 then
      "byte 0x" ++ String.ofList (Hex.padded 2 f.first.toNat) ++ " in position " ++ toString f.position
    else
      "bytes in position " ++ toString f.position ++ "-" ++ toString (f.position + f.length - 1)
  "'utf-8' codec can't decode " ++ place ++ ": " ++ f.reason.message

/-- Reads octets from a position on, with the character begun before it and the characters
already read, latest first.
-/
def decodeFrom (position : Nat) (begun : Option Begun) (read : List Char)
    : List UInt8 → Except Fault (List Char)
  | [] =>
      match begun with
      | none => .ok read.reverse
      | some b => .error ⟨.endOfData, position - b.length, b.first, b.length⟩
  | octet :: octets =>
      match begun with
      | none =>
          match start octet with
          | .character c => decodeFrom (position + 1) none (c :: read) octets
          | .begun b => decodeFrom (position + 1) (some b) read octets
          | .refused => .error ⟨.startOctet, position, octet, 1⟩
      | some b =>
          match b.next octet with
          | .character c => decodeFrom (position + 1) none (c :: read) octets
          | .begun b => decodeFrom (position + 1) (some b) read octets
          | .refused => .error ⟨.continuationOctet, position - b.length, b.first, b.length⟩

def decode (octets : List UInt8) : Except Fault (List Char) :=
  decodeFrom 0 none [] octets

end DirectoryRoutes.Text.Utf8
