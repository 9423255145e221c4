/-!
# Reading numbers

The double nearest to a decimal number. Exponents far outside the range of a
double are cut off first, so that the cost depends on the digits alone.
-/

namespace RepoSurvey.Decimal

/-- The double nearest to `digits · 10 ^ place`. -/
def nearest (digits : Nat) (place : Int) : Float :=
  if digits == 0 then 0.0
  else
    let lead := place + (toString digits).length
    if 310 < lead then 1.0 / 0.0
    else if lead < -330 then 0.0
    else if 0 ≤ place then Float.ofScientific digits false place.toNat
    else Float.ofScientific digits true place.natAbs

/-- The number written by a list of decimal digit values, after `n`. -/
def digitsValue (n : Nat) : List Nat → Nat
  | [] => n
  | d :: rest => digitsValue (10 * n + d) rest

end RepoSurvey.Decimal
