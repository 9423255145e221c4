import RepoSurvey.Decimal.Shortest
import RepoSurvey.Json
import RepoSurvey.Text.Cut
import RepoSurvey.Text.Quoted

/-!
# The text of a JSON value

Every item and every field stands on a line of its own, two columns further in
than the brackets around it; an empty list or object is a pair of brackets.
The text is ASCII alone: any other character is written by its number in
UTF-16, so one beyond the basic plane takes two escapes.
-/

namespace RepoSurvey.Json

/-! ## Strings -/

/-- The escape of a 16-bit unit. -/
def unitEscape (n : Nat) : List Char :=
  '\\' :: 'u' :: Text.hexDigits n 4

/-- The escape of a character by its number. -/
def numberEscape (n : Nat) : List Char :=
  if n < 0x10000 then unitEscape n
  else
    let above := n - 0x10000
    unitEscape (0xD800 + above / 0x400) ++ unitEscape (0xDC00 + above % 0x400)

/-- A character inside a string. -/
def charText (c : Char) : List Char :=
  if c == '"' || c == '\\' then ['\\', c]
  else if c == '\n' then ['\\', 'n']
  else if c == '\r' then ['\\', 'r']
  else if c == '\t' then ['\\', 't']
  else if c == '\x08' then ['\\', 'b']
  else if c == '\x0c' then ['\\', 'f']
  else if ' ' ≤ c && c ≤ '~' then [c]
  else numberEscape c.toNat

/-- A string between its quotes. -/
def stringText (s : String) : String :=
  String.ofList ('"' :: s.toList.flatMap charText ++ ['"'])

/-! ## Numbers -/

/-- A real number, in the fewest digits that read back. -/
def realText (x : Float) : String :=
  match Decimal.exact x with
  | .nan => "NaN"
  | .infinite negative => if negative then "-Infinity" else "Infinity"
  | .finite _ _ _ => Decimal.plainReal.text x

/-! ## Layout -/

/-- The beginning of a line that is `depth` levels in. -/
def lineStart (depth : Nat) : String :=
  "\n" ++ String.ofList (List.replicate (2 * depth) ' ')

/-- Lines between brackets, `depth` levels in; only the brackets when there are none. -/
def bracketed (opening closing : String) (depth : Nat) (lines : List String) : String :=
  if lines.isEmpty then opening ++ closing
  else
    let start := lineStart (depth + 1)
    opening ++ start ++ Text.join ("," ++ start) lines ++ lineStart depth ++ closing

mutual

/-- The text of a value that stands `depth` levels in. -/
def layout (depth : Nat) : Json → String
  | .null => "null"
  | .bool b => if b then "true" else "false"
  | .int n => toString n
  | .real x => realText x
  | .str s => stringText s
  | .arr items => bracketed "[" "]" depth (itemLines (depth + 1) items)
  | .obj fields => bracketed "\x7b" "\x7d" depth (fieldLines (depth + 1) fields)

/-- The texts of the items of a list. -/
def itemLines (depth : Nat) : List Json → List String
  | [] => []
  | item :: rest => layout depth item :: itemLines depth rest

/-- The texts of the fields of an object. -/
def fieldLines (depth : Nat) : List (String × Json) → List String
  | [] => []
  | (key, value) :: rest =>
    (stringText key ++ ": " ++ layout depth value) :: fieldLines depth rest

end

/-- The text of a value. -/
def text (j : Json) : String :=
  layout 0 j

end RepoSurvey.Json
