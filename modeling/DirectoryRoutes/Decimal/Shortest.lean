/-! The shortest decimal of a binary value: of all decimals that read back to the value it has the
fewest digits and, among those, is the nearest. Everything is computed exactly, on naturals.
-/

namespace DirectoryRoutes.Decimal

/-- The number `digits * 10 ^ exponent`. -/
structure Numeral where
  digits : Nat
  exponent : Int
deriving DecidableEq, Repr

/-- The positive number `significand * 2 ^ exponent`, as one of the values of a binary format. -/
structure Binary where
  significand : Nat
  exponent : Int
  /-- The value below is half as far away as the value above. -/
  narrowBelow : Bool

/-- The magnitude in the bits of a finite double. -/
def Binary.ofBits (bits : UInt64) : Binary :=
  let field := ((bits >>> 52) &&& 0x7FF).toNat
  let fraction := (bits &&& 0xFFFFFFFFFFFFF).toNat
  if field = 0 then ⟨fraction, -1074, false⟩
  else ⟨0x10000000000000 + fraction, (field : Int) - 1075, fraction = 0 && field > 1⟩

/-- The value is a given natural number. -/
def Binary.isNat (x : Binary) (n : Nat) : Bool :=
  x.significand <<< x.exponent.toNat = n <<< (-x.exponent).toNat

def scale (a exponent : Nat) : Nat :=
  a * Nat.pow 10 exponent

/-- Compares `a * 10 ^ i` with `b * 2 ^ j`. -/
def compareScaled (a : Nat) (i : Int) (b : Nat) (j : Int) : Ordering :=
  compare (scale a i.toNat <<< (-j).toNat) (scale b (-i).toNat <<< j.toNat)

/-- The numeral lies among the reals that round to the value. They reach half-way to the values
below and above; the two ends belong to the value with the even significand.
-/
def Binary.readsBack (x : Binary) (n : Numeral) : Bool :=
  let low := if x.narrowBelow then 4 * x.significand - 1 else 4 * x.significand - 2
  let atLow := compareScaled n.digits n.exponent low (x.exponent - 2)
  let atHigh := compareScaled n.digits n.exponent (4 * x.significand + 2) (x.exponent - 2)
  let closed := x.significand % 2 = 0
  (atLow = .gt || (closed && atLow = .eq)) && (atHigh = .lt || (closed && atHigh = .eq))

/-- The number of digits before the point, negative when zeros follow the point: the least `k`
with the value below `10 ^ k`, found near its binary logarithm.
-/
def Binary.magnitude (x : Binary) : Int :=
  let estimate := ((x.significand.log2 + x.exponent) * 30103).fdiv 100000
  let above (k : Int) : Bool := compareScaled 1 k x.significand x.exponent = .gt
  (([estimate - 1, estimate, estimate + 1, estimate + 2].find? above).getD (estimate + 3))

/-- The nearest numeral that reads back among the value's two neighbours on the grid of the powers
`10 ^ grid`. Of two equally near ones the even one counts as nearer.
-/
def Binary.onGrid? (x : Binary) (grid : Int) : Option Numeral :=
  let num := scale x.significand (-grid).toNat <<< x.exponent.toNat
  let den := scale 1 grid.toNat <<< (-x.exponent).toNat
  let below : Numeral := ⟨num / den, grid⟩
  let above : Numeral := ⟨num / den + 1, grid⟩
  match x.readsBack below, x.readsBack above with
  | true, false => some below
  | false, true => some above
  | false, false => none
  | true, true =>
      match compare (2 * num) ((2 * (num / den) + 1) * den) with
      | .lt => some below
      | .gt => some above
      | .eq => some (if below.digits % 2 = 0 then below else above)

/-- The value with every digit of its binary fraction. -/
def Binary.exact (x : Binary) : Numeral :=
  ⟨x.significand * Nat.pow 5 (-x.exponent).toNat <<< x.exponent.toNat, min x.exponent 0⟩

/-- Moves the zeros at the end of the digits into the exponent. -/
def Numeral.trim (n : Numeral) : Numeral :=
  if h : n.digits ≠ 0 ∧ n.digits % 10 = 0 then trim ⟨n.digits / 10, n.exponent + 1⟩ else n
termination_by n.digits

/-- The shortest decimal: the first grid with a hit, from one digit up to the seventeen that
always suffice.
-/
def Binary.shortest (x : Binary) : Numeral :=
  let grids := (List.range 17).map fun n => x.magnitude - (n + 1 : Nat)
  ((grids.findSome? x.onGrid?).getD x.exact).trim

end DirectoryRoutes.Decimal
