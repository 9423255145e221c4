import RepoSurvey.Decimal.Binary

/-!
# The shortest text of a double

Every double is the nearest one to a whole interval of reals. Its shortest
text is the one with the fewest digits inside that interval, and among those
the one closest to the exact value. The search goes through the decimal grids
of one digit, two digits and so on; on each it looks at the two neighbours of
the value.
-/

namespace RepoSurvey.Decimal

/-- A positive number and the interval that rounds to it, over one denominator. -/
structure Interval where
  /-- Numerator of the lower end. -/
  low : Nat
  /-- Numerator of the value. -/
  mid : Nat
  /-- Numerator of the upper end. -/
  high : Nat
  /-- The common denominator. -/
  den : Nat
  /-- The ends belong to the interval. -/
  closed : Bool

/-- The interval of reals that round to `mantissa · 2 ^ exponent`. Below a
power of two the neighbouring double is half as far away. -/
def interval (mantissa : Nat) (exponent : Int) : Interval :=
  let atPower := mantissa == Nat.pow 2 52 && exponent != -1074
  let (scale, den) := fraction 1 exponent
  { low := (4 * mantissa - (if atPower then 1 else 2)) * scale
    mid := 4 * mantissa * scale
    high := (4 * mantissa + 2) * scale
    den := 4 * den
    closed := mantissa % 2 == 0 }

/-- Numerator and denominator of `10 ^ place`. -/
def powerOfTen (place : Int) : Nat × Nat :=
  if 0 ≤ place then (Nat.pow 10 place.toNat, 1) else (1, Nat.pow 10 place.natAbs)

/-- The number `digits · 10 ^ place` lies in the interval. -/
def Interval.holds (v : Interval) (digits : Nat) (place : Int) : Bool :=
  let (p, q) := powerOfTen place
  let x := digits * p * v.den
  if v.closed then v.low * q ≤ x && x ≤ v.high * q else v.low * q < x && x < v.high * q

/-- The neighbour of the value on the grid of `10 ^ place` that lies in the
interval; the nearer one when both do, and the even one at equal distance. -/
def Interval.neighbour? (v : Interval) (place : Int) : Option Nat :=
  let (p, q) := powerOfTen place
  let down := v.mid * q / (v.den * p)
  let up := down + 1
  match v.holds down place, v.holds up place with
  | true, true =>
    let below := v.mid * q - down * p * v.den
    let above := up * p * v.den - v.mid * q
    if below < above then some down
    else if above < below then some up
    else some (if down % 2 == 0 then down else up)
  | true, false => some down
  | false, true => some up
  | false, false => none

/-- The place of the leading digit of `num / den`, sought downwards from `place`. -/
def leadingPlace (num den : Nat) (place : Int) : Nat → Int
  | 0 => place
  | fuel + 1 =>
    let (p, q) := powerOfTen place
    if den * p ≤ num * q then place else leadingPlace num den (place - 1) fuel

/-- Digits and place of the shortest number in the interval, from `count` digits on. -/
def Interval.shortest (v : Interval) (lead : Int) (count : Nat) : Nat → Nat × Int
  | 0 => (v.mid / v.den, 0)
  | fuel + 1 =>
    let place := lead - count + 1
    match v.neighbour? place with
    | some digits => (digits, place)
    | none => shortest v lead (count + 1) fuel

/-- A number without its trailing zeros, and how many there were. -/
def dropZeros (n place : Nat) : Nat → Nat × Nat
  | 0 => (n, place)
  | fuel + 1 => if n != 0 && n % 10 == 0 then dropZeros (n / 10) (place + 1) fuel else (n, place)

/-- The digits of the shortest text, without trailing zeros, and the place of the last one. -/
def shortestDigits (mantissa : Nat) (exponent : Int) : Nat × Int :=
  let v := interval mantissa exponent
  let lead := leadingPlace v.mid v.den 308 640
  let (digits, place) := v.shortest lead 1 17
  let (bare, zeros) := dropZeros digits 0 20
  (bare, place + zeros)

/-- Where a text changes from positional to exponential, and whether an
integral value keeps its point. -/
structure RealFormat where
  /-- The least place of a leading digit written positionally. -/
  leastPlace : Int
  /-- The greatest place of a leading digit written positionally. -/
  greatestPlace : Int
  /-- An integral value is written with a point and a zero. -/
  keepsPoint : Bool

/-- Zeros in a row. -/
def zeros (n : Nat) : String :=
  String.ofList (List.replicate n '0')

/-- The text of a positive number `digits · 10 ^ place`. -/
def RealFormat.positiveText (f : RealFormat) (digits : Nat) (place : Int) : String :=
  let text := toString digits
  let lead := place + text.length - 1
  if lead < f.leastPlace || f.greatestPlace < lead then
    let head := text.toList.take 1
    let tail := text.toList.drop 1
    let magnitude := toString lead.natAbs
    String.ofList (if tail.isEmpty then head else head ++ '.' :: tail) ++ "e" ++
      (if lead < 0 then "-" else "+") ++ zeros (2 - magnitude.length) ++ magnitude
  else if 0 ≤ place then text ++ zeros place.toNat ++ (if f.keepsPoint then ".0" else "")
  else if 0 ≤ lead then
    let whole := (lead + 1).toNat
    String.ofList (text.toList.take whole) ++ "." ++ String.ofList (text.toList.drop whole)
  else "0." ++ zeros (lead.natAbs - 1) ++ text

/-- The shortest text of a double that reads back as it. -/
def RealFormat.text (f : RealFormat) (x : Float) : String :=
  match exact x with
  | .nan => "nan"
  | .infinite negative => if negative then "-inf" else "inf"
  | .finite negative m e =>
    let body :=
      if m == 0 then (if f.keepsPoint then "0.0" else "0")
      else
        let (digits, place) := shortestDigits m e
        f.positiveText digits place
    (if negative then "-" else "") ++ body

/-- Positional from a ten-thousandth up to sixteen digits, and always with a point. -/
def plainReal : RealFormat := ⟨-4, 15, true⟩

/-- The same without a point after an integral value. -/
def barePlainReal : RealFormat := ⟨-4, 15, false⟩

end RepoSurvey.Decimal
