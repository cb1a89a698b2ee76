import DirectoryRoutes.Data
import DirectoryRoutes.Decimal.Reading
import DirectoryRoutes.Text.Hex
import DirectoryRoutes.Text.Taken
import DirectoryRoutes.Toml.Fault

/-! Numbers, dates and times in TOML documents. Single underscores may stand between digits. A
date that no calendar has is a fault; what begins like a date and is none is read as a number.
-/

namespace DirectoryRoutes.Toml

open Text

/-- Digits that follow a digit, each one after at most one underscore. -/
def moreDigits (isDigit : Char → Bool) : List Char → List Char × List Char
  | [] => ([], [])
  | '_' :: c :: rest =>
      if isDigit c then
        let (ds, more) := moreDigits isDigit rest
        (c :: ds, more)
      else ([], '_' :: c :: rest)
  | c :: rest =>
      if isDigit c then
        let (ds, more) := moreDigits isDigit rest
        (c :: ds, more)
      else ([], c :: rest)

def digits (isDigit : Char → Bool) : List Char → Option (List Char × List Char)
  | [] => none
  | c :: rest =>
      if isDigit c then
        let (ds, more) := moreDigits isDigit rest
        some (c :: ds, more)
      else none

def isDigitOf (base : Nat) (c : Char) : Bool :=
  (Hex.value? c).any (· < base)

/-- An integer in base two, eight or sixteen. -/
def based : List Char → Option (Int × List Char)
  | '0' :: letter :: rest => do
      let base ←
        match letter with
        | 'x' => some 16
        | 'o' => some 8
        | 'b' => some 2
        | _ => none
      let (ds, more) ← digits (isDigitOf base) rest
      pure (ds.foldl (fun n d => base * n + (Hex.value? d).getD 0) 0, more)
  | _ => none

/-- A sign in front of a number, plus if there is none. -/
def sign : List Char → Bool × List Char
  | '-' :: rest => (true, rest)
  | '+' :: rest => (false, rest)
  | rest => (false, rest)

/-- The digits of the whole part: a zero, or digits that begin with another one. -/
def wholeDigits : List Char → Option (List Char × List Char)
  | '0' :: rest => some (['0'], rest)
  | cs => digits Char.isDigit cs

/-- The digits after a point, if there are any. -/
def fractionDigits : List Char → Option (List Char × List Char)
  | '.' :: rest => digits Char.isDigit rest
  | _ => none

/-- The power of ten after its letter, if there is one. -/
def power : List Char → Option (Int × List Char)
  | c :: rest =>
      if c = 'e' || c = 'E' then do
        let (negative, rest) := sign rest
        let (ds, more) ← digits Char.isDigit rest
        let n : Int := Decimal.valueOf ds
        pure (if negative then -n else n, more)
      else none
  | [] => none

/-- A decimal number. It is an integer when it has neither a fraction nor a power of ten. -/
def decimal (input : List Char) : Option (Except Cause Data × List Char) := do
  let (negative, rest) := sign input
  let (whole, rest) ← wholeDigits rest
  let fraction? := fractionDigits rest
  let rest := (fraction?.map Prod.snd).getD rest
  let power? := power rest
  let rest := (power?.map Prod.snd).getD rest
  if fraction?.isNone && power?.isNone then
    if whole.length > Decimal.digitLimit then pure (.error (.overlong whole.length), rest)
    else
      let n : Int := Decimal.valueOf whole
      pure (.ok (.int (if negative then -n else n)), rest)
  else
    let fraction := (fraction?.map Prod.fst).getD []
    let exponent := (power?.map Prod.fst).getD 0 - fraction.length
    pure (.ok (.float (Decimal.toFloat negative (whole ++ fraction) exponent)), rest)

/-- A float that is not finite. -/
def special (input : List Char) : Option (Data × List Char) :=
  let (negative, rest) := sign input
  match rest with
  | 'i' :: 'n' :: 'f' :: more =>
      some (.float (if negative then -Decimal.infinity else Decimal.infinity), more)
  | 'n' :: 'a' :: 'n' :: more => some (.float Decimal.undefined, more)
  | _ => none

/-- A fixed number of digits whose value lies within bounds. -/
def field (width low high : Nat) (input : List Char) : Option (Nat × List Char) :=
  let ds := input.take width
  let n := Decimal.valueOf ds
  if ds.length = width && ds.all Char.isDigit && low ≤ n && n ≤ high then
    some (n, input.drop width)
  else none

def exactly (c : Char) : List Char → Option (Unit × List Char)
  | x :: rest => if x = c then some ((), rest) else none
  | [] => none

/-- The text without a fraction of a second at its front. -/
def skipSecondFraction (input : List Char) : List Char :=
  match input with
  | '.' :: d :: rest => if d.isDigit then rest.dropWhile Char.isDigit else input
  | _ => input

/-- The text after a time of day. -/
def time (input : List Char) : Option (Unit × List Char) := do
  let (_, rest) ← field 2 0 23 input
  let (_, rest) ← exactly ':' rest
  let (_, rest) ← field 2 0 59 rest
  let (_, rest) ← exactly ':' rest
  let (_, rest) ← field 2 0 59 rest
  pure ((), skipSecondFraction rest)

/-- The text after an offset from universal time, if there is one. -/
def skipOffset (input : List Char) : List Char :=
  let offset (rest : List Char) : Option (Unit × List Char) := do
    let (_, rest) ← field 2 0 23 rest
    let (_, rest) ← exactly ':' rest
    let (_, rest) ← field 2 0 59 rest
    pure ((), rest)
  match input with
  | c :: rest =>
      if c = 'Z' || c = 'z' then rest
      else if c = '+' || c = '-' then ((offset rest).map Prod.snd).getD input
      else input
  | [] => input

def daysIn (year month : Nat) : Nat :=
  let leap := year % 4 = 0 && (year % 100 ≠ 0 || year % 400 = 0)
  if month = 2 then if leap then 29 else 28
  else if month = 4 || month = 6 || month = 9 || month = 11 then 30
  else 31

/-- A date, with a time of day if one follows. -/
def date (input : List Char) : Option (Except Cause Unit × List Char) := do
  let (year, rest) ← field 4 0 9999 input
  let (_, rest) ← exactly '-' rest
  let (month, rest) ← field 2 1 12 rest
  let (_, rest) ← exactly '-' rest
  let (day, rest) ← field 2 1 31 rest
  let rest :=
    match rest with
    | c :: more =>
        if c = 'T' || c = 't' || c = ' ' then
          match time more with
          | some (_, after) => skipOffset after
          | none => rest
        else rest
    | [] => rest
  pure (if year = 0 || daysIn year month < day then .error .invalidDate else .ok (), rest)

/-- The value that begins like a date, a time or a number. -/
def dateOrNumber (input : List Char) : Option (Except Cause Data × List Char) :=
  let written (rest : List Char) : Data :=
    .moment (String.ofList (input.take (input.length - rest.length)))
  match date input with
  | some (checked, rest) => some (checked.map fun _ => written rest, rest)
  | none =>
      match time input with
      | some (_, rest) => some (.ok (written rest), rest)
      | none =>
          match based input with
          | some (n, rest) => some (.ok (.int n), rest)
          | none =>
              match decimal input with
              | some found => some found
              | none => (special input).map fun (d, rest) => (.ok d, rest)

end DirectoryRoutes.Toml
