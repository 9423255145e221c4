import RepoSurvey.Text.Blank
import RepoSurvey.Text.Cut
import RepoSurvey.Text.Pattern

/-!
# Brackets and parameter lists

Looking for the bracket that closes another, cutting a list at its top-level
commas, and naming the parameters of a callable.
-/

namespace RepoSurvey.JavaScript

open Text (Pattern isWordOrDollar)

/-! ## Names -/

/-- A character that may start an identifier. -/
def isNameStart (c : Char) : Bool :=
  ('a' ≤ c && c ≤ 'z') || ('A' ≤ c && c ≤ 'Z') || c == '_' || c == '$'

/-- A character of a dotted name. -/
def isDottedPart (c : Char) : Bool :=
  isWordOrDollar c || c == '.'

/-- An identifier. -/
def name : Pattern :=
  .seq (.one isNameStart) (.many isWordOrDollar)

/-- Any number of blanks. -/
def blanks : Pattern :=
  .many Text.isBlank

/-- At least one blank. -/
def gap : Pattern :=
  .some1 Text.isBlank

/-- A single or double quote. -/
def isQuote (c : Char) : Bool :=
  c == '\x27' || c == '"'

/-- A quote, a body without quotes that is captured, and a quote. -/
def quoted (number : Nat) : Pattern :=
  .sequence [.one isQuote, .capture number (.some1 fun c => !isQuote c), .one isQuote]

/-! ## Partners -/

/-- The bracket that closes an opening one. -/
def closerOf (c : Char) : Char :=
  if c == '(' then ')' else if c == '{' then '}' else ']'

/-- The position of the bracket that brings `depth` back to zero, looking at
`room` positions from `i`; the last position of the text when there is none. -/
def closeFrom (text : Array Char) (opener closer : Char) (i depth : Nat) : Nat → Nat
  | 0 => text.size - 1
  | room + 1 =>
    match text[i]? with
    | none => text.size - 1
    | some c =>
      if c == opener then closeFrom text opener closer (i + 1) (depth + 1) room
      else if c == closer then
        if depth ≤ 1 then i else closeFrom text opener closer (i + 1) (depth - 1) room
      else closeFrom text opener closer (i + 1) depth room

/-- The position of the bracket that closes the one at `i`. -/
def closing (text : Array Char) (i : Nat) : Nat :=
  match text[i]? with
  | none => text.size - 1
  | some opener => closeFrom text opener (closerOf opener) i 0 (text.size - i)

/-! ## Lists -/

/-- Cuts a text at the commas outside all brackets. Angle brackets count as
brackets; `part` holds the piece being read, last character first. -/
def cutAtCommas (depth : Int) (part : List Char) : List Char → List (List Char)
  | [] => [part.reverse]
  | c :: rest =>
    let depth := if ['(', '[', '{', '<'].contains c then depth + 1
      else if [')', ']', '}', '>'].contains c then depth - 1
      else depth
    if c == ',' && depth == 0 then part.reverse :: cutAtCommas depth [] rest
    else cutAtCommas depth (c :: part) rest

/-- The items of a list without blanks at their ends; empty items are dropped. -/
def listItems (text : List Char) : List String :=
  ((cutAtCommas 0 [] text).map fun item => String.ofList (Text.trimChars item)).filter
    fun item => !item.isEmpty

/-- A decorator with arguments in front of a parameter. -/
def parameterDecorators : Pattern :=
  .seq .textStart (.seq one (.star one))
where
  /-- One decorator with the blanks after it. -/
  one : Pattern := .sequence [.one (· == '@'), .some1 isDottedPart, .one (· == '('),
    .many (· != ')'), .one (· == ')'), blanks]

/-- Modifiers in front of a parameter. -/
def parameterModifiers : Pattern :=
  .seq .textStart (.seq one (.star one))
where
  /-- One modifier with the blanks after it. -/
  one : Pattern := .seq (.oneOf ["public", "private", "protected", "readonly"]) gap

/-- The identifier at the beginning of a text. -/
def leadingName? (s : String) : Option String :=
  (name.opens? s).map fun (m, text) => Text.Match.textBetween text m.start m.stop

/-- The name of a parameter, without its decorators, modifiers, type and
default; a destructured parameter is abbreviated. -/
def parameterName (raw : String) : String :=
  let bare := parameterDecorators.substitute (fun _ _ => "") (Text.trim raw)
  let bare := parameterModifiers.substitute (fun _ _ => "") bare
  if Text.startsWith bare "\x7b" then "\x7b ... \x7d"
  else if Text.startsWith bare "[" then "[ ... ]"
  else if Text.startsWith bare "..." then
    match leadingName? (String.ofList (bare.toList.drop 3)) with
    | some n => "..." ++ n
    | none => "...rest"
  else (leadingName? bare).getD "param"

/-- The parameters written between two positions of the code. -/
def parametersBetween (code : Array Char) (start stop : Nat) : List String :=
  (listItems (code.extract start stop).toList).map parameterName

/-- The text without the quotes around it, when it stands in quotes of one kind. -/
def unquote (s : String) : String :=
  match (Text.trimChars s.toList) with
  | [] => ""
  | [c] => String.singleton c
  | q :: rest =>
    if (q == '\x27' || q == '"' || q == '\x60') && rest.getLast? == some q then
      String.ofList rest.dropLast
    else String.ofList (q :: rest)

end RepoSurvey.JavaScript
