import DirectoryRoutes.Data
import DirectoryRoutes.Decimal.Shortest

/-! Sameness of values. Numbers are compared by value across their kinds, with false and true as
zero and one; records do not depend on the order of their fields.
-/

namespace DirectoryRoutes.Data

/-- A float has exactly the value of an integer. -/
def floatIsInt (x : Float) (n : Int) : Bool :=
  let bits := x.toBits
  let magnitude := bits &&& 0x7FFFFFFFFFFFFFFF
  let negative := bits >>> 63 = 1
  magnitude < 0x7FF0000000000000 && (Decimal.Binary.ofBits magnitude).isNat n.natAbs
    && (n = 0 || negative = decide (n < 0))

/-- The whole number that a truth value or an integer counts as. -/
def whole? : Data → Option Int
  | bool value => some (if value then 1 else 0)
  | int value => some value
  | _ => none

mutual

def same : Data → Data → Bool
  | null, null => true
  | text a, text b => a = b
  | moment a, moment b => a = b
  | float a, float b => a == b
  | float a, b => (whole? b).any (floatIsInt a)
  | a, float b => (whole? a).any (floatIsInt b)
  | list xs, list ys => sameItems xs ys
  | record xs, record ys => xs.length = ys.length && sameFields xs ys
  | a, b => (whole? a).isSome && whole? a = whole? b

def sameItems : List Data → List Data → Bool
  | [], [] => true
  | a :: xs, b :: ys => same a b && sameItems xs ys
  | _, _ => false

/-- Each field of the first record has the same value in the second. -/
def sameFields : List (String × Data) → List (String × Data) → Bool
  | [], _ => true
  | (name, a) :: rest, ys =>
      (match Table.get? name ys with
        | some b => same a b
        | none => false)
      && sameFields rest ys

end

/-- A list or a record, which no set can hold. -/
def isContainer : Data → Bool
  | list _ => true
  | record _ => true
  | _ => false

end DirectoryRoutes.Data
