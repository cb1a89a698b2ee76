import DirectoryRoutes.Decimal.Shortest

/-! The written form of floating numbers: the shortest decimal that reads back, positionally while
the exponent of its first digit lies from -4 to 15, otherwise with a signed exponent of at least
two digits. A positional number always has a point.
-/

namespace DirectoryRoutes.Decimal

def digitsOf (n : Nat) : List Char :=
  Nat.toDigits 10 n

/-- A numeral written out around its point. -/
def positional (digits : List Char) (exponent : Int) : List Char :=
  let point := digits.length + exponent
  if exponent ≥ 0 then digits ++ List.replicate exponent.toNat '0' ++ ['.', '0']
  else if point > 0 then digits.take point.toNat ++ '.' :: digits.drop point.toNat
  else '0' :: '.' :: List.replicate (-point).toNat '0' ++ digits

/-- A numeral with its point after the first digit and the power of ten that makes up for it. -/
def scientific (digits : List Char) (exponent : Int) : List Char :=
  let power := digitsOf exponent.natAbs
  let sign := if exponent < 0 then '-' else '+'
  let fraction := if digits.length ≤ 1 then [] else '.' :: digits.drop 1
  digits.take 1 ++ fraction ++ 'e' :: sign :: List.replicate (2 - power.length) '0' ++ power

/-- A numeral without trailing zeros in its written form. -/
def Numeral.layout (n : Numeral) : List Char :=
  let digits := digitsOf n.digits
  let first := n.exponent + digits.length - 1
  if -4 ≤ first && first < 16 then positional digits n.exponent else scientific digits first

def write (x : Float) : String :=
  let bits := x.toBits
  let sign := if bits >>> 63 = 1 then "-" else ""
  let magnitude := bits &&& 0x7FFFFFFFFFFFFFFF
  if magnitude > 0x7FF0000000000000 then "nan"
  else if magnitude = 0x7FF0000000000000 then sign ++ "inf"
  else if magnitude = 0 then sign ++ "0.0"
  else sign ++ String.ofList (Binary.ofBits magnitude).shortest.layout

end DirectoryRoutes.Decimal
