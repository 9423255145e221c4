import RepoSurvey.Text.Blank

/-!
# Masked copies of a source

Patterns must not be misled by what stands in comments and literals. A source
is therefore read once, character by character, into two copies of the same
length: the *code*, with comments blanked, and the *skeleton*, in which the
bodies of strings, templates and regular expressions are blanked as well.
Line feeds stay, so a position has the same line in all three texts.

Braces are counted on the way. The skeleton of a source that is read to its
end has every brace closed by one of its own kind; otherwise reading fails.

A lone quote, such as an apostrophe in markup text, does not start a literal.
A slash starts a regular expression only where an operand may stand, which is
judged by the character before it.
-/

namespace RepoSurvey.JavaScript

/-- Why a source could not be read. -/
inductive MaskError where
  /-- A block comment is not closed. -/
  | openComment
  /-- A closing brace has no partner; the line is given. -/
  | strayBrace (line : Nat)
  /-- A template literal is not closed. -/
  | openTemplate
  /-- So many braces are not closed. -/
  | openBraces (count : Nat)
  deriving Repr, DecidableEq

/-- The text of a failure. -/
def MaskError.message : MaskError → String
  | .openComment => "Unterminated block comment"
  | .strayBrace line => "Unbalanced '\x7d' at line " ++ toString line
  | .openTemplate => "Unterminated template literal"
  | .openBraces count => "Unbalanced braces: " ++ toString count ++ " unclosed"

/-- One position of the two copies: the character of the code and that of the skeleton. -/
abbrev Cell := Char × Char

/-- A character kept in both copies. -/
def kept (c : Char) : Cell := (c, c)

/-- What is left of a blanked character: line feeds stay. -/
def blanked (c : Char) : Char :=
  if c == '\n' then '\n' else ' '

/-- A character blanked in the skeleton only. -/
def hidden (c : Char) : Cell := (c, blanked c)

/-- A character blanked in both copies. -/
def erased (c : Char) : Cell := (blanked c, blanked c)

/-- What an open brace belongs to. -/
inductive Brace where
  /-- A block or an object. -/
  | block
  /-- A place inside a template. -/
  | interpolation
  deriving Repr, DecidableEq

/-! ## Literals -/

/-- The body of a string up to its closing quote: how many characters it has,
when it is closed on its line. A backslash takes the next character with it. -/
def stringLength? (quote : Char) (seen : Nat) : List Char → Option Nat
  | [] => none
  | '\\' :: rest =>
    match rest with
    | [] => none
    | _ :: rest' => stringLength? quote (seen + 2) rest'
  | c :: rest =>
    if c == quote then some seen
    else if c == '\n' then none
    else stringLength? quote (seen + 1) rest

/-- The body of a regular expression up to its closing slash: how many
characters it has, when it is closed on its line. A slash inside square
brackets does not close it. -/
def regexLength? (inClass : Bool) (seen : Nat) : List Char → Option Nat
  | [] => none
  | '\\' :: rest =>
    match rest with
    | [] => none
    | _ :: rest' => regexLength? inClass (seen + 2) rest'
  | c :: rest =>
    if c == '\n' then none
    else if c == '[' then regexLength? true (seen + 1) rest
    else if c == ']' then regexLength? false (seen + 1) rest
    else if c == '/' && !inClass then (if seen == 0 then none else some seen)
    else regexLength? inClass (seen + 1) rest

/-- How many characters stand before the end of a block comment. -/
def commentLength? (seen : Nat) : List Char → Option Nat
  | [] => none
  | '*' :: '/' :: _ => some seen
  | _ :: rest => commentLength? (seen + 1) rest

/-- After these characters a slash starts a regular expression. -/
def startsOperand (c : Char) : Bool :=
  ['(', ',', '=', ':', '[', '!', '&', '|', '?', '{', '}', ';'].contains c

/-! ## Reading -/

/-- The state of the reader. -/
structure Reader where
  /-- The text of a template is being read. -/
  inTemplate : Bool := false
  /-- The last character that was neither blank nor in a comment. -/
  previous : Option Char := none
  /-- The braces that are open, innermost first. -/
  braces : List Brace := []
  /-- The cells made so far, last first. -/
  cells : List Cell := []

/-- The line of the position the reader has come to. -/
def Reader.line (r : Reader) : Nat :=
  (r.cells.filter fun cell => cell.1 == '\n').length + 1

/-- The reader with further cells; `cells` comes in reading order. -/
def Reader.emit (r : Reader) (cells : List Cell) : Reader :=
  { r with cells := cells.reverse ++ r.cells }

/-- What the reader does with the characters at hand: it stops, or goes on
with a new state after consuming `taken + 1` of them. -/
inductive Step where
  /-- Reading fails. -/
  | fail (e : MaskError)
  /-- Reading goes on. -/
  | go (next : Reader) (taken : Nat)

/-- A step inside a template. -/
def templateStep (r : Reader) (c : Char) (rest : List Char) : Step :=
  if c == '\\' then
    .go (r.emit (hidden c :: (rest.take 1).map hidden)) 1
  else if c == '\x60' then
    .go { r.emit [kept c] with inTemplate := false, previous := some c } 0
  else if c == '$' && rest.head? == some '{' then
    .go { r.emit [kept c, kept '{'] with
      inTemplate := false, previous := some '{', braces := .interpolation :: r.braces } 1
  else .go (r.emit [hidden c]) 0

/-- A step at a character that starts neither a comment nor a literal. -/
def plainStep (r : Reader) (c : Char) : Step :=
  let next := { r.emit [kept c] with previous := if Text.isBlank c then r.previous else some c }
  if c == '{' then .go { next with braces := .block :: r.braces } 0
  else if c == '}' then
    match r.braces with
    | [] => .fail (.strayBrace r.line)
    | .interpolation :: outer =>
      .go { r.emit [kept c] with braces := outer, inTemplate := true } 0
    | .block :: outer => .go { next with braces := outer } 0
  else .go next 0

/-- A literal whose body has `n` characters and is closed by one more. -/
def literalStep (r : Reader) (c : Char) (rest : List Char) (n : Nat) : Step :=
  .go { r.emit (kept c :: (rest.take n).map hidden ++ ((rest.drop n).take 1).map kept) with
    previous := some c } (n + 1)

/-- A step outside templates. -/
def codeStep (r : Reader) (c : Char) (rest : List Char) : Step :=
  if c == '/' && rest.head? == some '/' then
    let body := rest.takeWhile (· != '\n')
    .go (r.emit (erased c :: body.map erased)) body.length
  else if c == '/' && rest.head? == some '*' then
    match commentLength? 0 (rest.drop 1) with
    | none => .fail .openComment
    | some n => .go (r.emit (erased c :: (rest.take (n + 3)).map erased)) (n + 3)
  else if c == '\x27' || c == '"' then
    match stringLength? c 0 rest with
    | none => .go { r.emit [kept c] with previous := some c } 0
    | some n => literalStep r c rest n
  else if c == '\x60' then .go { r.emit [kept c] with inTemplate := true } 0
  else if c == '/' && r.previous.all startsOperand then
    match regexLength? false 0 rest with
    | none => plainStep r c
    | some n => literalStep r c rest n
  else plainStep r c

/-- One step of the reader. -/
def Reader.step (r : Reader) (c : Char) (rest : List Char) : Step :=
  if r.inTemplate then templateStep r c rest else codeStep r c rest

/-- Reads the text that is left. -/
def Reader.read (r : Reader) : List Char → Except MaskError Reader
  | [] => .ok r
  | c :: rest =>
    match r.step c rest with
    | .fail e => .error e
    | .go next taken => next.read (rest.drop taken)
termination_by cs => cs.length
decreasing_by simp only [List.length_drop, List.length_cons]; omega

/-- The two masked copies of a source. -/
structure Masked where
  /-- The source with comments blanked. -/
  code : Array Char
  /-- The source with comments and literals blanked. -/
  skeleton : Array Char
  deriving Repr, DecidableEq

/-- Reads a source into its masked copies. -/
def mask (source : List Char) : Except MaskError Masked := do
  let r ← Reader.read {} source
  if r.inTemplate then throw .openTemplate
  if !r.braces.isEmpty then throw (.openBraces r.braces.length)
  let cells := r.cells.reverse
  return ⟨(cells.map (·.1)).toArray, (cells.map (·.2)).toArray⟩

end RepoSurvey.JavaScript
