import RepoSurvey.Decimal.Read
import RepoSurvey.Text.Blank
import RepoSurvey.Text.Numeral

/-!
# Numbers as a person types them

An integer in some base or a real number, as it stands in a setting: blanks
around it, a sign before it, digits of any script, single underscores between
digits, an exponent, and the words for infinity and for what is not a number.

An integer in base ten has a limited number of digits, when it is read and when
it is written out.
-/

namespace RepoSurvey.Decimal

/-- A character of a numeral in its plain form: a digit of any script becomes
the ASCII digit of its value, and a blank beyond ASCII becomes a space. -/
def plainForm (c : Char) : Char :=
  if c.toNat < 127 then c
  else if Text.isBlank c then ' '
  else match Text.decimalValue? c with
    | some d => Char.ofNat (48 + d)
    | none => '?'

/-- A blank that may stand around a numeral. -/
def isMargin (c : Char) : Bool :=
  c == ' ' || ('\t' ≤ c && c ≤ '\r')

/-- A numeral in its plain form, without the blanks around it. -/
def plainNumeral (cs : List Char) : List Char :=
  Text.trimBy isMargin (cs.map plainForm)

/-- The sign in front, and the rest. -/
def signed (cs : List Char) : Bool × List Char :=
  match cs with
  | '-' :: rest => (true, rest)
  | '+' :: rest => (false, rest)
  | _ => (false, cs)

/-! ## Integers -/

/-- The value of a digit, letters counting on from ten. -/
def digitValue? (c : Char) : Option Nat :=
  if '0' ≤ c && c ≤ '9' then some (c.toNat - 48)
  else if 'a' ≤ c && c ≤ 'z' then some (c.toNat - 87)
  else if 'A' ≤ c && c ≤ 'Z' then some (c.toNat - 55)
  else none

/-- Digits below `base` with single underscores between them; the flag holds
when the last character was a digit. -/
def digitsIn? (base : Nat) : Bool → List Char → Option (List Nat)
  | started, [] => if started then some [] else none
  | started, c :: rest =>
    if c == '_' then
      if started then digitsIn? base false rest else none
    else match digitValue? c with
      | some d =>
        if d < base then (digitsIn? base true rest).map (d :: ·) else none
      | none => none

/-- The letter that marks a base in front of its digits. -/
def baseMark? (base : Nat) : Option Char :=
  if base == 2 then some 'b'
  else if base == 8 then some 'o'
  else if base == 16 then some 'x'
  else none

/-- The digits without the mark of their base, which an underscore may follow. -/
def withoutMark (base : Nat) (cs : List Char) : List Char :=
  match cs, baseMark? base with
  | '0' :: c :: rest, some mark =>
    if c == mark || c == mark.toUpper then
      match rest with
      | '_' :: more => more
      | _ => rest
    else cs
  | _, _ => cs

/-- The most digits that are read in base ten, and that are written out. -/
def maximalDigits : Nat := 4300

/-- The text in which an integer with more digits is reported. -/
def digitsMessage (detail : String) : String :=
  "Exceeds the limit (" ++ toString maximalDigits ++ " digits) for integer string conversion" ++
    detail ++ "; use sys.set_int_max_str_digits() to increase the limit"

/-- The integer has more digits than are written out. -/
def IsOverlong (n : Int) : Prop :=
  maximalDigits < (toString n.natAbs).length
  deriving Decidable

/-- The text of an integer; one with too many digits has none. -/
def integerText? (n : Int) : Option String :=
  if IsOverlong n then none else some (toString n)

/-- The integer that a text spells in a base. -/
def integer? (base : Nat) (cs : List Char) : Option Int :=
  let (negative, body) := signed (plainNumeral cs)
  match digitsIn? base false (withoutMark base body) with
  | none => none
  | some digits =>
    if baseMark? base == none && maximalDigits < digits.length then none
    else
      let n := digits.foldl (fun n d => base * n + d) 0
      some (if negative then -(n : Int) else n)

/-! ## Reals -/

/-- The digits at hand, with single underscores between them, and the rest. -/
def digitRun : List Char → List Nat × List Char
  | [] => ([], [])
  | c :: '_' :: d :: rest =>
    if c.isDigit && d.isDigit then
      let (more, tail) := digitRun (d :: rest)
      ((c.toNat - 48) :: more, tail)
    else if c.isDigit then ([c.toNat - 48], '_' :: d :: rest)
    else ([], c :: '_' :: d :: rest)
  | c :: rest =>
    if c.isDigit then
      let (more, tail) := digitRun rest
      ((c.toNat - 48) :: more, tail)
    else ([], c :: rest)

/-- The exponent at the end of a real number. -/
def exponent? (cs : List Char) : Option Int :=
  match cs with
  | [] => some 0
  | e :: rest =>
    if e == 'e' || e == 'E' then
      let (negative, body) := signed rest
      match digitRun body with
      | (d :: ds, []) =>
        let n := digitsValue 0 (d :: ds)
        some (if negative then -(n : Int) else n)
      | _ => none
    else none

/-- The number that a text spells without sign and blanks. -/
def unsignedReal? (cs : List Char) : Option Float :=
  let word := cs.map Char.toLower
  if word == "inf".toList || word == "infinity".toList then some (1.0 / 0.0)
  else if word == "nan".toList then some (0.0 / 0.0)
  else
    let (whole, rest) := digitRun cs
    let (part, rest) := match rest with
      | '.' :: rest' => digitRun rest'
      | _ => ([], rest)
    if whole.isEmpty && part.isEmpty then none
    else (exponent? rest).map fun e =>
      nearest (digitsValue 0 (whole ++ part)) (e - part.length)

/-- The real number that a text spells. -/
def real? (cs : List Char) : Option Float :=
  let (negative, body) := signed (plainNumeral cs)
  (unsignedReal? body).map fun x => if negative then -x else x

/-- The double nearest to an integer; none when the integer is out of range. -/
def ofInteger? (n : Int) : Option Float :=
  let x := nearest n.natAbs 0
  if x == 1.0 / 0.0 then none else some (if n < 0 then -x else x)

end RepoSurvey.Decimal
