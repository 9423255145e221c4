import RepoSurvey.Decimal.Spelled
import RepoSurvey.Text.Casing
import RepoSurvey.Yaml.Base64
import RepoSurvey.Yaml.Tag

/-!
# Values of YAML scalars

What the text of a scalar means as a truth value, a number, a date or bytes.
Each kind has its own ways of being misspelled, which are told apart.
-/

namespace RepoSurvey.Yaml

open Decimal (signed integer? real? nearest)

/-- A truth value. -/
def boolValue (text : List Char) : Except Problem Bool :=
  let word := Text.lower (String.ofList text)
  if ["yes", "true", "on"].contains word then .ok true
  else if ["no", "false", "off"].contains word then .ok false
  else .error .unknownTruth

/-- The text of a number without underscores. -/
def bare (text : List Char) : List Char :=
  text.filter (· != '_')

/-- An integer in one of the bases, or a bad number. -/
def integerIn (base : Nat) (text : List Char) : Except Problem Int :=
  match integer? base text with
  | some n => .ok n
  | none => .error .badNumber

/-- The number with the given sign. -/
def withSign (negative : Bool) (n : Int) : Int :=
  if negative then -n else n

/-- An integer: binary, octal, hexadecimal, sexagesimal or decimal. -/
def intValue (text : List Char) : Except Problem Int :=
  let (negative, body) := signed (bare text)
  match body with
  | [] => .error .emptyNumber
  | ['0'] => .ok 0
  | '0' :: 'b' :: rest => (integerIn 2 rest).map (withSign negative)
  | '0' :: 'x' :: rest => (integerIn 16 rest).map (withSign negative)
  | '0' :: _ => (integerIn 8 body).map (withSign negative)
  | _ =>
    if body.contains ':' then do
      let places ← (Text.splitAt ':' body).mapM (integerIn 10)
      return withSign negative (places.foldl (fun n place => 60 * n + place) 0)
    else (integerIn 10 body).map (withSign negative)

/-- A real number, or a bad number. -/
def realIn (text : List Char) : Except Problem Float :=
  match real? text with
  | some x => .ok x
  | none => .error .badNumber

/-- The sum of sexagesimal places, the last one first. -/
def sexagesimal (base : Nat) (sum : Float) : List Float → Except Problem Float
  | [] => .ok sum
  | place :: rest =>
    match Decimal.ofInteger? base with
    | some unit => sexagesimal (base * 60) (sum + place * unit) rest
    | none => .error .hugeNumber

/-- A real number: an infinity, no number, sexagesimal or decimal. -/
def floatValue (text : List Char) : Except Problem Float :=
  let lowered := (Text.lower (String.ofList (bare text))).toList
  let (negative, body) := signed lowered
  let value : Except Problem Float :=
    if lowered.isEmpty then .error .emptyNumber
    else if body == ".inf".toList then .ok (1.0 / 0.0)
    else if body == ".nan".toList then .ok (0.0 / 0.0)
    else if body.contains ':' then do
      let places ← (Text.splitAt ':' body).mapM realIn
      sexagesimal 1 0.0 places.reverse
    else realIn body
  value.map fun x => if negative then -x else x

/-! ## Dates -/

/-- A leap year. -/
def isLeap (year : Nat) : Bool :=
  year % 4 == 0 && (year % 100 != 0 || year % 400 == 0)

/-- The days of a month. -/
def daysIn (year month : Nat) : Nat :=
  if month == 2 then (if isLeap year then 29 else 28)
  else if [4, 6, 9, 11].contains month then 30
  else 31

/-- The numbers of a written date name a moment of the calendar. -/
def isMoment (year month day hour minute second zone : Nat) : Bool :=
  1 ≤ year && 1 ≤ month && month ≤ 12 && 1 ≤ day && day ≤ daysIn year month &&
    hour ≤ 23 && minute ≤ 59 && second ≤ 59 && zone < 1440

/-- Checks a date. -/
def dateValue (text : List Char) : Except Problem Unit :=
  let cs := text.toArray
  match (Text.Pattern.seq taggedDateSpelling .textEnd).matchAt? cs 0 with
  | none => .error .notADate
  | some m =>
    let number (piece : Nat) : Nat :=
      Decimal.digitsValue 0 ((m.group cs piece).toList.map fun c => c.toNat - 48)
    if isMoment (number 1) (number 2) (number 3) (number 4) (number 5) (number 6)
        (60 * number 8 + number 9) then .ok ()
    else .error .badNumber

/-! ## Bytes -/

/-- The bytes of a scalar in base 64. -/
def bytesValue (text : List Char) : Except Problem (List UInt8) :=
  if text.all fun c => c.toNat < 128 then
    match base64? text with
    | some bytes => .ok bytes
    | none => .error .malformed
  else .error .malformed

end RepoSurvey.Yaml
