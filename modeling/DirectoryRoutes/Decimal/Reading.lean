/-! The numbers that written decimals stand for, floats to the nearest. -/

namespace DirectoryRoutes.Decimal

/-- The number that a run of plain digits stands for. -/
def valueOf (digits : List Char) : Nat :=
  digits.foldl (fun n c => 10 * n + (c.toNat - '0'.toNat)) 0

/-- The most digits with which an integer is read or written. -/
def digitLimit : Nat :=
  4300

def infinity : Float :=
  Float.ofBits 0x7FF0000000000000

/-- The value that is no number. -/
def undefined : Float :=
  Float.ofBits 0x7FF8000000000000

/-- The float nearest to `digits * 10 ^ exponent`. The magnitude is bounded first, so that no
power beyond the range of floats is ever computed.
-/
def toFloat (negative : Bool) (digits : List Char) (exponent : Int) : Float :=
  let value := valueOf digits
  let magnitude := (Nat.toDigits 10 value).length + exponent
  let x :=
    if value = 0 || magnitude < -400 then 0.0
    else if magnitude > 400 then infinity
    else Float.ofScientific value (exponent < 0) exponent.natAbs
  if negative then -x else x

end DirectoryRoutes.Decimal
