import RepoSurvey.Analysis.File
import RepoSurvey.JavaScript.Bracket
import RepoSurvey.Text.Casing
import RepoSurvey.Text.Lines

/-!
# Callables and their extents

A span is a function or method with the piece of the source it takes up. The
declarations are found by patterns in the skeleton, where brackets match and
literals are silent; names, parameters and lines are then read from the code
at the same positions.
-/

namespace RepoSurvey.JavaScript

open Text (Pattern)

/-- A function or method and its extent, both ends included. -/
structure Span where
  /-- The name of the callable. -/
  name : String
  /-- The position where it starts. -/
  start : Nat
  /-- The position where it ends. -/
  stop : Nat
  /-- What is known about it. -/
  info : Callable
  deriving Inhabited

/-- The difference of the two ends, by which extents are compared. -/
def Span.extent (s : Span) : Int :=
  (s.stop : Int) - s.start

/-- The signature of the span's callable. -/
def Span.signature (s : Span) : String :=
  signatureOf s.name s.info.parameters

/-- The line of a position, as the analysis records it. -/
def lineAt (text : Array Char) (i : Nat) : Int :=
  Text.lineOfArray text i

/-- The first position from `i` on that holds no blank, among `room` positions. -/
def skipBlanks (text : Array Char) (i : Nat) : Nat → Nat
  | 0 => i
  | room + 1 => if Text.classAt text Text.isBlank i then skipBlanks text (i + 1) room else i

/-- The position after the last character before `i` that is not blank. -/
def skipBlanksBack (text : Array Char) : Nat → Nat
  | 0 => 0
  | i + 1 => if Text.classAt text Text.isBlank i then skipBlanksBack text i else i + 1

/-- The text between two positions. -/
def slice (text : Array Char) (start stop : Nat) : List Char :=
  (text.extract start stop).toList

/-! ## Pieces of declarations -/

/-- Type parameters in angle brackets, which hold no angle that closes and no brace. -/
def typeParameters : Pattern :=
  .optional (.sequence
    [.one (· == '<'), .many (Text.Pattern.otherThan ">\x7b\x7d"), .one (· == '>')])

/-- Blanks, perhaps a type after a colon, and the opening brace of a body. -/
def bodyAfterParameters : Pattern :=
  .sequence [blanks, .optional (.seq (.one (· == ':')) (.fewest1 (Text.Pattern.otherThan "\x7b;"))),
    .one (· == '{')]

/-- Blanks, perhaps a type after a colon, and the arrow of a function. -/
def arrowAfterParameters : Pattern :=
  .sequence [blanks,
    .optional (.seq (.one (· == ':')) (.fewest1 (Text.Pattern.otherThan "=;\x7b"))),
    .literal "=>"]

/-- A type after a colon, up to an equals sign. -/
def typeNote : Pattern :=
  .optional (.seq (.one (· == ':')) (.fewest1 (Text.Pattern.otherThan "=;")))

/-- The word `async`, captured as piece 2 with the blanks after it. -/
def asyncWord (number : Nat) : Pattern :=
  .optional (.capture number (.seq (.literal "async") gap))

/-- A parameter without parentheses, captured as piece 3, and the arrow. -/
def singleParameter : Pattern :=
  .sequence [.capture 3 name, blanks, .literal "=>"]

/-! ## Decorators -/

/-- An at sign and a dotted name, piece 1, and perhaps a parenthesis, piece 2. -/
def decoratorHead : Pattern :=
  .sequence [.one (· == '@'), .capture 1 (.some1 isDottedPart), blanks,
    .optional (.capture 2 (.one (· == '(')))]

/-- A decorator and where it stands. -/
structure PlacedDecorator where
  /-- The position of its at sign. -/
  start : Nat
  /-- The position after it. -/
  stop : Nat
  /-- The decorator. -/
  decorator : Decorator

/-- The decorators of a source in order. An at sign inside a word starts none. -/
def decorators (code skeleton : Array Char) : List PlacedDecorator :=
  (decoratorHead.findAll skeleton).filterMap fun m =>
    if m.start != 0 && Text.classAt skeleton
        (fun c => Text.isAlphanumeric c || c == '$' || c == '_') (m.start - 1) then none
    else
      let title := m.group skeleton 1
      match m.place? 2 with
      | none => some ⟨m.start, m.stop, ⟨title, []⟩⟩
      | some _ =>
        let close := closing skeleton (m.stop - 1)
        some ⟨m.start, close + 1, ⟨title, (listItems (slice code m.stop close)).map unquote⟩⟩

/-- The word `export` stands right before position `i`. -/
def exportBefore (skeleton : Array Char) (i : Nat) : Bool :=
  6 ≤ i && slice skeleton (i - 6) i == "export".toList

/-- Where a decorator of the declaration at `i` would have to end: before the
blanks, and before an `export` with the blanks in front of it. -/
def decoratorEnd (skeleton : Array Char) (i : Nat) : Nat :=
  let scan := skipBlanksBack skeleton i
  if exportBefore skeleton scan then skipBlanksBack skeleton (scan - 6) else scan

/-- The decorators that stand one after another right before position `i`;
`found` holds those already met, which come later in the source. -/
def decoratorsBefore (skeleton : Array Char) (placed : List PlacedDecorator)
    (found : List Decorator)
    (i : Nat) : Nat → List Decorator
  | 0 => found
  | fuel + 1 =>
    match placed.reverse.find? fun d => d.stop == decoratorEnd skeleton i with
    | none => found
    | some d => decoratorsBefore skeleton placed (d.decorator :: found) d.start fuel

/-- The decorators of the declaration at position `i`. -/
def decoratorsOf (skeleton : Array Char) (placed : List PlacedDecorator) (i : Nat) :
    List Decorator :=
  decoratorsBefore skeleton placed [] i (placed.length + 1)

/-! ## Arrow functions -/

/-- The end of the body that starts at `i` or after the blanks there: the
bracket that closes it, or the end of the line. -/
def bodyEnd (skeleton : Array Char) (i : Nat) : Nat :=
  let scan := skipBlanks skeleton i (skeleton.size - i)
  if Text.classAt skeleton (fun c => c == '{' || c == '(') scan then closing skeleton scan
  else Text.runEnd skeleton Text.Pattern.inLine scan (skeleton.size - scan)

/-- The text between `start` and the parenthesis tells that the value is
written with the word `function`. -/
def usesFunctionWord (skeleton : Array Char) (title : String) (start paren : Nat) : Bool :=
  let between := slice skeleton start paren
  !title.toList.isSuffixOf (Text.trimEndBy Text.isBlank between) &&
    Text.occursIn "function".toList between

/-- The span of a name that is given a function as its value. The match ends
after the opening parenthesis of the parameters or after the arrow of a
single parameter. -/
def valueSpan? (code skeleton : Array Char) (title : String) (start matchStop : Nat)
    (isAsync : Bool)
    (single : Option String) : Option Span :=
  let make (parameters : List String) (bodyFrom : Nat) : Span :=
    { name := title, start := start, stop := bodyEnd skeleton bodyFrom,
      info := { line := lineAt code start, parameters := parameters, isAsync := isAsync } }
  match single with
  | some p => some (make [p] matchStop)
  | none =>
    let paren := matchStop - 1
    let close := closing skeleton paren
    let parameters := parametersBetween code (paren + 1) close
    if usesFunctionWord skeleton title start paren then
      (bodyAfterParameters.matchAt? skeleton (close + 1)).map fun m => make parameters (m.stop - 1)
    else
      (arrowAfterParameters.matchAt? skeleton (close + 1)).map fun m => make parameters m.stop

/-! ## Class members -/

/-- Words that may stand before a method name, each with the blanks after it. -/
def modifiers (words : List String) : Pattern :=
  .star (.seq (.oneOf words) gap)

/-- The blanks at the beginning of a line. -/
def indentation : Pattern :=
  .seq .lineStart (.many fun c => c == ' ' || c == '\t')

/-- A line that starts a method: its name is piece 1. -/
def methodHead : Pattern :=
  .sequence [indentation,
    modifiers ["public", "private", "protected", "static", "async", "readonly", "abstract",
      "override", "get", "set"],
    .capture 1 name, blanks, typeParameters, blanks, .one (· == '(')]

/-- A line that gives a field a function: the name is piece 1. -/
def memberArrowHead : Pattern :=
  .sequence [indentation, modifiers ["public", "private", "protected", "static", "readonly"],
    .capture 1 name, blanks, typeNote, .one (· == '='), blanks, asyncWord 2,
    .alt (.one (· == '(')) singleParameter]

/-- Words that look like a method call but name none. -/
def notMethodNames : List String :=
  ["if", "for", "while", "switch", "catch", "with", "return", "function", "typeof", "new", "super",
    "await", "yield", "else", "do", "try"]

/-- The word `async` and a blank. -/
def asyncBeforeName : Pattern :=
  .sequence [.wordEdge, .literal "async", .one Text.isBlank]

/-- Between the two positions as many braces open as close. -/
def atClassDepth (skeleton : Array Char) (start stop : Nat) : Bool :=
  let between := slice skeleton start stop
  between.count '{' == between.count '}'

/-- The methods of the class body between two braces. -/
def methodSpans (code skeleton : Array Char) (placed : List PlacedDecorator)
    (bodyOpen bodyClose : Nat) : List Span :=
  let offset := bodyOpen + 1
  let body := skeleton.extract offset bodyClose
  (methodHead.findAll body).filterMap fun m => do
    let title := m.group body 1
    let (nameStart, _) ← m.place? 1
    let start := offset + nameStart
    if notMethodNames.contains title || !atClassDepth skeleton offset start then none
    else
      let paren := offset + m.stop - 1
      let close := closing skeleton paren
      let after ← bodyAfterParameters.matchAt? skeleton (close + 1)
      some {
        name := title, start := start, stop := closing skeleton (after.stop - 1)
        info := {
          line := lineAt code start
          parameters := parametersBetween code (paren + 1) close
          decorators := decoratorsOf skeleton placed (offset + m.start)
          isAsync :=
            (asyncBeforeName.findFrom? (skeleton.extract (offset + m.start) start) 0).isSome } }

/-- The fields of the class body between two braces that hold functions. -/
def fieldSpans (code skeleton : Array Char) (bodyOpen bodyClose : Nat) : List Span :=
  let offset := bodyOpen + 1
  let body := skeleton.extract offset bodyClose
  (memberArrowHead.findAll body).filterMap fun m => do
    let (nameStart, _) ← m.place? 1
    let start := offset + nameStart
    if atClassDepth skeleton offset start then
      valueSpan? code skeleton (m.group body 1) start (offset + m.stop) (m.place? 2).isSome
        (m.group? body 3)
    else none

/-- A class declaration: its name is piece 1, its base class piece 2; the
match ends after the opening brace. -/
def classHead : Pattern :=
  .sequence [.wordEdge, .literal "class", gap, .capture 1 name, blanks, typeParameters,
    .optional (.sequence
      [gap, .literal "extends", gap, .capture 2 (.some1 isDottedPart), typeParameters]),
    .many (Text.Pattern.otherThan "\x7b;"), .one (· == '{')]

/-- A class declaration with its members. -/
structure ClassSpan where
  /-- The name of the class. -/
  name : String
  /-- The class without its methods. -/
  shell : ClassDef
  /-- The position of the brace that opens the body. -/
  bodyOpen : Nat
  /-- The position of the brace that closes it. -/
  bodyClose : Nat
  /-- Methods and function-valued fields, methods first. -/
  members : List Span

/-- The class declarations of a source in order. -/
def classSpans (code skeleton : Array Char) (placed : List PlacedDecorator) : List ClassSpan :=
  (classHead.findAll skeleton).map fun m =>
    let title := m.group skeleton 1
    let bases := (m.group? skeleton 2).toList
    let bodyOpen := m.stop - 1
    let bodyClose := closing skeleton bodyOpen
    { name := title
      shell := {
        line := lineAt code m.start
        bases := bases
        decorators := decoratorsOf skeleton placed m.start
        isComponent := bases.any (Text.holds · "Component") || Text.endsWith title "Component" }
      bodyOpen := bodyOpen
      bodyClose := bodyClose
      members := methodSpans code skeleton placed bodyOpen bodyClose ++
        fieldSpans code skeleton bodyOpen bodyClose }

/-! ## Functions -/

/-- A function declaration: `async` is piece 1, the name piece 2. -/
def functionHead : Pattern :=
  .sequence [.wordEdge, asyncWord 1, .literal "function", blanks,
    .optional (.one (· == '*')), blanks, .capture 2 name, blanks, typeParameters, blanks,
    .one (· == '(')]

/-- A variable that is given a function: the name is piece 1, `async` piece 2,
a single parameter piece 3. A call around the function is passed over. -/
def variableHead : Pattern :=
  .sequence [.wordEdge, .oneOf ["const", "let", "var"], gap, .capture 1 name, blanks, typeNote,
    .one (· == '='), blanks,
    .optional (.sequence [.some1 isDottedPart, .one (· == '('), blanks]),
    asyncWord 2,
    .choice [
      .sequence [.literal "function", .wordEdge, blanks, .optional (.one (· == '*')), blanks,
        .optional name, blanks, .one (· == '(')],
      .one (· == '('),
      singleParameter]]

/-- Only blanks stand between the beginning of the line and position `i`. -/
def opensLine (skeleton : Array Char) (i : Nat) : Bool :=
  ((slice skeleton 0 i).reverse.takeWhile (· != '\n')).all Text.isBlank

/-- A name written like a hook: `use` and a capital letter or a digit. -/
def isHookName (title : String) : Bool :=
  match Text.stripStart? "use".toList title.toList with
  | some (c :: _) => ('A' ≤ c && c ≤ 'Z') || ('0' ≤ c && c ≤ '9')
  | _ => false

/-- A function with the marks that its name gives it. -/
def Span.marked (s : Span) : Span :=
  { s with info :=
      { s.info with isComponent := Text.beginsUpper s.name, isHook := isHookName s.name } }

/-- The declared functions and then the variables that hold functions. A
variable at the beginning of a line inside a class body is left to the class. -/
def functionSpans (code skeleton : Array Char) (classes : List ClassSpan) : List Span :=
  let declared := (functionHead.findAll skeleton).filterMap fun m => do
    let paren := m.stop - 1
    let close := closing skeleton paren
    let after ← bodyAfterParameters.matchAt? skeleton (close + 1)
    let made : Span := {
      name := m.group skeleton 2, start := m.start, stop := closing skeleton (after.stop - 1)
      info := {
        line := lineAt code m.start
        parameters := parametersBetween code (paren + 1) close
        isAsync := (m.place? 1).isSome } }
    some made
  let held := (variableHead.findAll skeleton).filterMap fun m =>
    let inClass := classes.any fun c => c.bodyOpen < m.start && m.start < c.bodyClose
    if inClass && opensLine skeleton m.start then none
    else valueSpan? code skeleton (m.group skeleton 1) m.start m.stop (m.place? 2).isSome
      (m.group? skeleton 3)
  (declared ++ held).map Span.marked

end RepoSurvey.JavaScript
