/-!
# Doubles as exact numbers

A finite double is a natural number times a power of two. Every decimal text
of a double is made from that exact value, never from another text.
-/

namespace RepoSurvey.Decimal

/-- What a double stands for. -/
inductive Exact where
  /-- Not a number. -/
  | nan
  /-- An infinity. -/
  | infinite (negative : Bool)
  /-- The number `mantissa · 2 ^ exponent`, with a sign. -/
  | finite (negative : Bool) (mantissa : Nat) (exponent : Int)
  deriving Repr, DecidableEq

/-- The exact value with the given 64 bits. -/
def exactOfBits (bits : Nat) : Exact :=
  let negative := bits / Nat.pow 2 63 % 2 == 1
  let field := bits / Nat.pow 2 52 % Nat.pow 2 11
  let fraction := bits % Nat.pow 2 52
  if field == 2047 then
    if fraction == 0 then .infinite negative else .nan
  else if field == 0 then .finite negative fraction (-1074)
  else .finite negative (fraction + Nat.pow 2 52) (Int.ofNat field - 1075)

/-- The exact value of a double. -/
def exact (x : Float) : Exact :=
  exactOfBits x.toBits.toNat

/-- Numerator and denominator of `mantissa · 2 ^ exponent`. -/
def fraction (mantissa : Nat) (exponent : Int) : Nat × Nat :=
  if 0 ≤ exponent then (mantissa * Nat.pow 2 exponent.toNat, 1)
  else (mantissa, Nat.pow 2 exponent.natAbs)

end RepoSurvey.Decimal
