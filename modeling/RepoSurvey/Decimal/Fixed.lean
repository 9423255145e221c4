import RepoSurvey.Decimal.Binary

/-!
# Fixed places

A number rounded to a fixed number of decimal places. Rounding is done on the
exact value; what lies exactly between two neighbours goes to the even one.
-/

namespace RepoSurvey.Decimal

/-- The quotient rounded to the nearest integer, a tie to the even one. -/
def divideToEven (num den : Nat) : Nat :=
  let q := num / den
  let twice := 2 * (num % den)
  if twice < den then q
  else if den < twice then q + 1
  else if q % 2 == 0 then q else q + 1

/-- How many units of the last of `places` places a finite number has. -/
def units (mantissa : Nat) (exponent : Int) (places : Nat) : Nat :=
  let (num, den) := fraction mantissa exponent
  divideToEven (num * Nat.pow 10 places) den

/-- A count of units of the last place, written with a point. -/
def placeText (count places : Nat) : String :=
  let whole := toString (count / Nat.pow 10 places)
  if places == 0 then whole
  else
    let part := toString (count % Nat.pow 10 places)
    whole ++ "." ++ String.ofList (List.replicate (places - part.length) '0') ++ part

/-- The text of a double with a fixed number of places. -/
def fixed (places : Nat) (x : Float) : String :=
  match exact x with
  | .nan => "nan"
  | .infinite negative => if negative then "-inf" else "inf"
  | .finite negative m e => (if negative then "-" else "") ++ placeText (units m e places) places

/-- A double rounded to a fixed number of places. -/
def roundTo (places : Nat) (x : Float) : Float :=
  match exact x with
  | .finite negative m e =>
    let y := Float.ofScientific (units m e places) true places
    if negative then -y else y
  | _ => x

end RepoSurvey.Decimal
