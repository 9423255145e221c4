import RepoSurvey.Decimal.Spelled
import RepoSurvey.Table
import RepoSurvey.Text.Cut

/-!
# The usage of a command

A command line has switches, which begin with a dash, and places, which the
other words fill in order. A usage says which there are, how many words each
takes, and what those words must be. Long switches may be cut short as long as
they stay unambiguous, and a value may be attached to its switch.
-/

namespace RepoSurvey.Command

/-! ## Switches and places -/

/-- How many words a switch or a place takes. -/
inductive Span where
  /-- None. -/
  | nothing
  /-- Exactly one. -/
  | one
  /-- One, or none. -/
  | atMostOne
  /-- At least one, up to the next switch. -/
  | several
  /-- One, and then all that follow, switches included. -/
  | rest
  deriving Repr, DecidableEq

/-- What a word must be. -/
inductive Demand where
  | text
  | integer
  | oneOf (choices : List String)
  deriving Repr, DecidableEq

/-- The word is as demanded. -/
def Demand.accepts (d : Demand) (word : String) : Bool :=
  match d with
  | .text => true
  | .integer => (Decimal.integer? 10 word.toList).isSome
  | .oneOf choices => choices.contains word

/-- A switch. -/
structure Switch where
  /-- The words that stand for it. -/
  spellings : List String
  /-- What it sets. -/
  name : String
  /-- The words it takes. -/
  span : Span := .nothing
  /-- What those words must be. -/
  demand : Demand := .text
  /-- It only asks for help. -/
  isHelp : Bool := false
  deriving Repr, DecidableEq

/-- A place for words without a dash. -/
structure Place where
  /-- What it sets. -/
  name : String
  /-- The words it takes. -/
  span : Span
  /-- What those words must be. -/
  demand : Demand := .text
  deriving Repr, DecidableEq

/-- The switches and places of a command. -/
structure Usage where
  /-- The switches. -/
  switches : List Switch
  /-- The places in order. -/
  places : List Place
  deriving Repr

/-- Why a command line is not carried out. -/
inductive Stop where
  /-- It asks for help. -/
  | help
  /-- It does not follow the usage. -/
  | misuse
  deriving Repr, DecidableEq

/-! ## What a word is -/

/-- A value that is attached to its switch. -/
structure Attached where
  /-- The value. -/
  text : String
  /-- An equals sign stands between the two. -/
  byEquals : Bool
  deriving Repr, DecidableEq

/-- The part that a word has in a command line. -/
inductive Role where
  /-- A word that fills a place or is a value. -/
  | plain
  /-- A lone pair of dashes; no switches come after it. -/
  | divider
  /-- A switch under a spelling, with the value attached to it. -/
  | switch (s : Switch) (spelling : String) (attached : Option Attached)
  /-- It looks like a switch, and there is none. -/
  | stray
  deriving Repr

/-- The part is that of a switch, whether there is one or not. -/
def Role.isSwitch : Role → Bool
  | .switch _ _ _ | .stray => true
  | .plain | .divider => false

/-- The pair of dashes after which no switches come. -/
def dividerWord : String := "--"

/-- All spellings of switches. -/
def Usage.spellings (u : Usage) : List (String × Switch) :=
  u.switches.flatMap fun s => s.spellings.map fun spelling => (spelling, s)

/-- The switch of a spelling. -/
def Usage.switch? (u : Usage) (spelling : String) : Option Switch :=
  u.spellings.lookup spelling

/-- What is attached to a word behind an equals sign. -/
def attachedValue? (word : String) : Option Attached :=
  if word.toList.contains '=' then some ⟨Text.afterFirst '=' word, true⟩ else none

/-- The switches that a word with dashes may stand for: a long one that begins
with it, or a short one whose value follows at once. -/
def Usage.candidates (u : Usage) (word : String) : List Role :=
  if Text.startsWith word dividerWord then
    let short := Text.beforeFirst '=' word
    (u.spellings.filter fun (spelling, _) => Text.startsWith spelling short).map
      fun (spelling, s) => .switch s spelling (attachedValue? word)
  else
    let short := String.ofList (word.toList.take 2)
    (u.spellings.filter fun (spelling, _) => spelling == short).map
      fun (spelling, s) => .switch s spelling (some ⟨String.ofList (word.toList.drop 2), false⟩)

/-- A decimal digit of any script. -/
def isDigit (c : Char) : Bool :=
  (Text.decimalValue? c).isSome

/-- The text is a dash and a plain number. -/
def isNegativeNumber (word : String) : Bool :=
  match word.toList with
  | '-' :: body =>
    let body := if body.getLast? == some '\n' then body.dropLast else body
    let tail := body.dropWhile isDigit
    match tail with
    | [] => !body.isEmpty
    | '.' :: digits => !digits.isEmpty && digits.all isDigit
    | _ => false
  | _ => false

/-- The part of a word that comes before any divider. -/
def Usage.role (u : Usage) (word : String) : Except Stop Role :=
  if !Text.startsWith word "-" then .ok .plain
  else match u.switch? word, u.switch? (Text.beforeFirst '=' word) with
    | some s, _ => .ok (.switch s word none)
    | none, some s => .ok (.switch s (Text.beforeFirst '=' word) (attachedValue? word))
    | none, none =>
      if word == "-" then .ok .plain
      else match u.candidates word with
        | _ :: _ :: _ => .error .misuse
        | [role] => .ok role
        | [] => .ok (if isNegativeNumber word || word.toList.contains ' ' then .plain else .stray)

/-- The words of a command line with their parts. -/
def Usage.roles (u : Usage) : List String → Except Stop (List (String × Role))
  | [] => .ok []
  | word :: rest =>
    if word == dividerWord then .ok ((word, .divider) :: rest.map fun w => (w, .plain))
    else do
      let role ← u.role word
      let others ← u.roles rest
      return (word, role) :: others

end RepoSurvey.Command
