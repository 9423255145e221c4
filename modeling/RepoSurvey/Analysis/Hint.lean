import RepoSurvey.Decimal.Shortest
import RepoSurvey.Failure
import RepoSurvey.Json
import RepoSurvey.Decimal.Spelled
import RepoSurvey.Text.Blank
import RepoSurvey.Text.Casing
import RepoSurvey.Text.Cut
import RepoSurvey.Text.Quoted

/-!
# Reading loose JSON

Route hints are JSON objects of any shape. A field is asked for as a text, as
something that is there at all, or as a line number. A value that is no text is
spelled out, and every value has a spelling but one: an integer with too many
digits, which may also stand deep inside a collection. How deeply collections
are nested is not limited.
-/

namespace RepoSurvey.Json

/-- The value says something: it is not null, false, zero or empty. -/
def isPresent : Json → Bool
  | .null => false
  | .bool b => b
  | .int n => n != 0
  | .real x => !(x == 0.0)
  | .str s => !s.isEmpty
  | .arr items => !items.isEmpty
  | .obj fields => !fields.isEmpty

/-- The failure to spell out an integer. -/
def unspelled : Failure :=
  .unwritable (Decimal.digitsMessage "")

mutual

/-- A value spelled out inside a collection, where texts stand in quotes. -/
def spelledInside : Json → Except Failure String
  | .null => .ok "None"
  | .bool b => .ok (if b then "True" else "False")
  | .int n =>
    match Decimal.integerText? n with
    | some text => .ok text
    | none => .error unspelled
  | .real x => .ok (Decimal.plainReal.text x)
  | .str s => .ok (Text.quotedText s)
  | .arr items => do
    let members ← spelledItems items
    return "[" ++ Text.join ", " members ++ "]"
  | .obj fields => do
    let members ← spelledFields fields
    return "\x7b" ++ Text.join ", " members ++ "\x7d"

/-- The members of a list spelled out. -/
def spelledItems : List Json → Except Failure (List String)
  | [] => .ok []
  | item :: rest => do
    let first ← spelledInside item
    let others ← spelledItems rest
    return first :: others

/-- The fields of an object spelled out. -/
def spelledFields : List (String × Json) → Except Failure (List String)
  | [] => .ok []
  | (key, value) :: rest => do
    let first ← spelledInside value
    let others ← spelledFields rest
    return (Text.quotedText key ++ ": " ++ first) :: others

end

/-- A value spelled out: a text as it is, everything else as in a collection. -/
def spelled : Json → Except Failure String
  | .str s => .ok s
  | other => spelledInside other

/-- The field of an object spelled out, empty when it is missing. -/
def spelledField (fields : List (String × Json)) (key : String) : Except Failure String :=
  match field? fields key with
  | some value => value.spelled
  | none => .ok ""

/-- The field of an object when it says something. -/
def presentField? (fields : List (String × Json)) (key : String) : Option Json :=
  (field? fields key).filter isPresent

/-- A text of digits only, blanks around it aside. -/
def isDigits (s : String) : Bool :=
  let bare := Text.trimChars s.toList
  !bare.isEmpty && bare.all Text.isDigitLike

/-- A line number, or `default` where none is given. Texts of digits count,
unless their digits make no decimal number. -/
def lineOr (default : Int) : Option Json → Except Failure Int
  | some (.int n) => .ok (if 0 < n then n else default)
  | some (.str s) =>
    if !isDigits s then .ok default
    else match Decimal.integer? 10 s.toList with
      | some n => .ok (if 0 < n then n else default)
      | none =>
        let digits := (Decimal.plainNumeral s.toList).length
        if Decimal.maximalDigits < digits then .error (.longLine digits) else .error (.badLine s)
  | _ => .ok default

end RepoSurvey.Json
