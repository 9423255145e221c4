import RepoSurvey.Text.Pattern
import RepoSurvey.Yaml.Node

/-!
# What a YAML node stands for

A node with a tag is of the kind that the tag names. Of a plain scalar
without a tag the spelling decides: truth values, numbers, dates and nothing
have spellings of their own, and anything else is text.
-/

namespace RepoSurvey.Yaml

open Text (Pattern)

/-- The kinds of nodes. -/
inductive Kind where
  | null | bool | int | float | bytes | date | orderedMap | pairs | set | text | sequence | mapping
  /-- The key that merges another mapping. -/
  | merge
  /-- The key of a mapping's default value. -/
  | default
  /-- A tag without meaning here. -/
  | unknown
  deriving Repr, DecidableEq

/-- The kinds by tag. -/
def kindsByTag : List (String × Kind) :=
  [("null", .null), ("bool", .bool), ("int", .int), ("float", .float), ("binary", .bytes),
    ("timestamp", .date), ("omap", .orderedMap), ("pairs", .pairs), ("set", .set), ("str", .text),
    ("seq", .sequence), ("map", .mapping), ("merge", .merge), ("value", .default)].map
    fun (name, kind) => ("tag:yaml.org,2002:" ++ name, kind)

/-! ## Spellings of plain scalars -/

/-- The class of digits below `base`, underscores included. -/
def digitOrLine (base : Nat) (c : Char) : Bool :=
  c == '_' || (hexValue? c).any (· < base)

/-- A sign. -/
def sign (c : Char) : Bool :=
  c == '+' || c == '-'

/-- A sign, or none. -/
def maybeSign : Pattern :=
  .optional (.one sign)

/-- The spellings of truth values. -/
def boolSpelling : Pattern :=
  .oneOf ["yes", "Yes", "YES", "no", "No", "NO", "true", "True", "TRUE", "false", "False", "FALSE",
    "on", "On", "ON", "off", "Off", "OFF"]

/-- An exponent with its sign, or none. -/
def exponent : Pattern :=
  .optional (.sequence [.one fun c => c == 'e' || c == 'E', .one sign, .some1 Char.isDigit])

/-- Digits from one to `most`. -/
def digits (least most : Nat) : Pattern :=
  .run Char.isDigit least (some most) true

/-- A sexagesimal place after its colon, and more of them. -/
def sixties : Pattern :=
  let place := Pattern.sequence
    [.one (· == ':'), .run (fun c => '0' ≤ c && c ≤ '5') 0 (some 1) true, .one Char.isDigit]
  .seq place (.star place)

/-- The spellings of real numbers. -/
def floatSpelling : Pattern :=
  .choice [
    .sequence [maybeSign, .one Char.isDigit, .many (digitOrLine 10), .one (· == '.'),
      .many (digitOrLine 10), exponent],
    .sequence [.one (· == '.'), .one Char.isDigit, .many (digitOrLine 10), exponent],
    .sequence [maybeSign, .one Char.isDigit, .many (digitOrLine 10), sixties, .one (· == '.'),
      .many (digitOrLine 10)],
    .sequence [maybeSign, .oneOf [".inf", ".Inf", ".INF"]],
    .oneOf [".nan", ".NaN", ".NAN"]]

/-- The spellings of integers. -/
def intSpelling : Pattern :=
  .choice [
    .sequence [maybeSign, .literal "0b", .some1 (digitOrLine 2)],
    .sequence [maybeSign, .literal "0", .some1 (digitOrLine 8)],
    .sequence [maybeSign, .alt (.literal "0")
      (.seq (.one fun c => '1' ≤ c && c ≤ '9') (.many (digitOrLine 10)))],
    .sequence [maybeSign, .literal "0x", .some1 (digitOrLine 16)],
    .sequence [maybeSign, .one fun c => '1' ≤ c && c ≤ '9', .many (digitOrLine 10), sixties]]

/-- The spellings of nothing, other than no text at all. -/
def nullSpelling : Pattern :=
  .oneOf ["~", "null", "Null", "NULL"]

/-- A blank inside a line. -/
def space (c : Char) : Bool :=
  c == ' ' || c == '\t'

/-- Hours and minutes and seconds, and a zone, after the date. The zone's sign
is piece 7, and the pieces 4, 5, 6, 8 and 9 are the numbers. -/
def clockTime : Pattern :=
  .sequence [.alt (.one fun c => c == 'T' || c == 't') (.some1 space), .capture 4 (digits 1 2),
    .one (· == ':'), .capture 5 (digits 2 2), .one (· == ':'), .capture 6 (digits 2 2),
    .optional (.seq (.one (· == '.')) (.many Char.isDigit)),
    .optional (.seq (.many space) (.alt (.one (· == 'Z'))
      (.sequence [.capture 7 (.one sign), .capture 8 (digits 1 2),
        .optional (.seq (.one (· == ':')) (.capture 9 (digits 2 2)))])))]

/-- Year, month and day as pieces 1 to 3. The last two have at least `least` digits. -/
def calendarDate (least : Nat) : Pattern :=
  .sequence [.capture 1 (digits 4 4), .one (· == '-'), .capture 2 (digits least 2),
    .one (· == '-'), .capture 3 (digits least 2)]

/-- The spellings that make a plain scalar a date. -/
def dateSpelling : Pattern :=
  .alt (.seq (calendarDate 2) .textEnd) (.sequence [calendarDate 1, clockTime])

/-- The spellings of a tagged date. -/
def taggedDateSpelling : Pattern :=
  .seq (calendarDate 1) (.optional clockTime)

/-- The text as a whole is spelled by the pattern. -/
def spells (p : Pattern) (text : List Char) : Bool :=
  ((Pattern.seq p .textEnd).matchAt? text.toArray 0).isSome

/-- The kind that the spelling of a plain scalar asks for. -/
def plainKind (text : List Char) : Kind :=
  if spells boolSpelling text then .bool
  else if spells floatSpelling text then .float
  else if spells intSpelling text then .int
  else if spells (.literal "<<") text then .merge
  else if text.isEmpty || spells nullSpelling text then .null
  else if spells dateSpelling text then .date
  else if spells (.literal "=") text then .default
  else .text

/-- The kind of a node. -/
def Node.kind (n : Node) : Kind :=
  match n.tag with
  | .named name => (kindsByTag.lookup name).getD .unknown
  | .free =>
    match n.content with
    | .scalar text plain => if plain then plainKind text else .text
    | .sequence _ => .sequence
    | .mapping _ => .mapping

end RepoSurvey.Yaml
