import RepoSurvey.JavaScript.Parse

/-!
# The parser with its lookups checked

The definitions of the parser answer always: the partner of a position behind the end of the
text is its last position, and a piece that a match has not captured is empty. Here they are
once more with every lookup checked. A position has to lie in the text, a partner is asked for
at an opening bracket only, a piece must have been captured, and the decorators before a
declaration must come to an end. Whatever fails is a `Misstep`.

The parser takes no misstep; that is proved in `RepoSurvey.Proofs.JavaScript.Lookups`.
-/

namespace RepoSurvey.JavaScript

open Text (Pattern Match)

/-- A lookup that has no answer. -/
inductive Misstep where
  /-- A position lies behind the end of the text. -/
  | outside (i : Nat)
  /-- A position lies before the beginning of the text. -/
  | negative
  /-- The partner of a character is asked for that is no opening bracket. -/
  | noBracket (i : Nat)
  /-- A piece of a match took no part in it. -/
  | notCaptured (number : Nat)
  /-- The decorators before a declaration do not end. -/
  | endless
  deriving Repr, DecidableEq

namespace Checked

/-! ## Lookups -/

section

variable (text : Array Char)

/-- The character at a position. -/
def charAt (i : Nat) : Except Misstep Char :=
  match text[i]? with
  | some c => .ok c
  | none => .error (.outside i)

/-- The position lies in the text or right behind it. -/
def upTo (i : Nat) : Except Misstep Unit :=
  if i ≤ text.size then .ok () else .error (.outside i)

/-- The position before another. -/
def back : Nat → Except Misstep Nat
  | 0 => .error .negative
  | i + 1 => .ok i

/-- The text between two positions. -/
def part (start stop : Nat) : Except Misstep (Array Char) := do
  upTo text start
  upTo text stop
  return text.extract start stop

/-- The line of a position. -/
def lineAt (i : Nat) : Except Misstep Int := do
  upTo text i
  return JavaScript.lineAt text i

/-- One of the brackets that have a partner. -/
def isOpening (c : Char) : Bool :=
  c == '(' || c == '{' || c == '['

/-- The position of the bracket that closes the one at `i`. -/
def partner (i : Nat) : Except Misstep Nat := do
  if isOpening (← charAt text i) then return closing text i else throw (.noBracket i)

/-- The match of a pattern that starts at `i`. -/
def follow (p : Pattern) (i : Nat) : Except Misstep (Option Match) := do
  upTo text i
  return p.matchAt? text i

/-- The place of a captured piece. -/
def place (m : Match) (number : Nat) : Except Misstep (Nat × Nat) :=
  match m.place? number with
  | some found => .ok found
  | none => .error (.notCaptured number)

/-- The text of a captured piece. -/
def group (m : Match) (number : Nat) : Except Misstep String := do
  let (start, stop) ← place m number
  return Match.textBetween text start stop

/-- The first position from `i` on that holds no blank, among `room` positions. -/
def skipBlanks (i : Nat) : Nat → Except Misstep Nat
  | 0 => return i
  | room + 1 => do
    if Text.isBlank (← charAt text i) then skipBlanks (i + 1) room else return i

/-- The position after the last character before `i` that is not blank. -/
def skipBlanksBack : Nat → Except Misstep Nat
  | 0 => return 0
  | i + 1 => do
    if Text.isBlank (← charAt text i) then skipBlanksBack i else return i + 1

end

/-! ## Decorators -/

/-- The match starts inside a word. -/
def insideWord (skeleton : Array Char) (m : Match) : Except Misstep Bool :=
  if m.start == 0 then return false
  else do
    let c ← charAt skeleton (← back m.start)
    return Text.isAlphanumeric c || c == '$' || c == '_'

/-- The decorators of a source in order. -/
def decorators (code skeleton : Array Char) : Except Misstep (List PlacedDecorator) :=
  (decoratorHead.findAll skeleton).filterMapM fun m => do
    if ← insideWord skeleton m then return none
    else
      let title ← group skeleton m 1
      match m.place? 2 with
      | none => return some ⟨m.start, m.stop, ⟨title, []⟩⟩
      | some _ =>
        let close ← partner skeleton (← back m.stop)
        let listed ← part code m.stop close
        return some ⟨m.start, close + 1, ⟨title, (listItems listed.toList).map unquote⟩⟩

/-- Where a decorator of the declaration at `i` would have to end. -/
def decoratorEnd (skeleton : Array Char) (i : Nat) : Except Misstep Nat := do
  let scan ← skipBlanksBack skeleton i
  if exportBefore skeleton scan then skipBlanksBack skeleton (scan - 6) else return scan

/-- The decorators that stand one after another right before position `i`. -/
def decoratorsBefore (skeleton : Array Char) (placed : List PlacedDecorator)
    (found : List Decorator) (i : Nat) : Nat → Except Misstep (List Decorator)
  | 0 => throw .endless
  | fuel + 1 => do
    let stop ← decoratorEnd skeleton i
    match placed.reverse.find? fun d => d.stop == stop with
    | none => return found
    | some d => decoratorsBefore skeleton placed (d.decorator :: found) d.start fuel

/-- The decorators of the declaration at position `i`. -/
def decoratorsOf (skeleton : Array Char) (placed : List PlacedDecorator) (i : Nat) :
    Except Misstep (List Decorator) :=
  decoratorsBefore skeleton placed [] i (placed.length + 1)

/-! ## Callables -/

/-- The parameters between two positions. -/
def parametersBetween (code : Array Char) (start stop : Nat) : Except Misstep (List String) := do
  upTo code start
  upTo code stop
  return JavaScript.parametersBetween code start stop

/-- The end of the body that starts at `i` or after the blanks there. -/
def bodyEnd (skeleton : Array Char) (i : Nat) : Except Misstep Nat := do
  let scan ← skipBlanks skeleton i (skeleton.size - i)
  let ends := Text.runEnd skeleton Text.Pattern.inLine scan (skeleton.size - scan)
  if scan < skeleton.size then
    let c ← charAt skeleton scan
    if c == '{' || c == '(' then partner skeleton scan else return ends
  else return ends

/-- The value is written with the word `function`. -/
def usesFunctionWord (skeleton : Array Char) (title : String) (start paren : Nat) :
    Except Misstep Bool := do
  upTo skeleton start
  upTo skeleton paren
  return JavaScript.usesFunctionWord skeleton title start paren

/-- A callable of a variable or a field whose body starts at `bodyFrom`. -/
def valueSpan (code skeleton : Array Char) (title : String) (start : Nat) (isAsync : Bool)
    (parameters : List String) (bodyFrom : Nat) : Except Misstep Span := do
  let stop ← bodyEnd skeleton bodyFrom
  let line ← lineAt code start
  return {
    name := title, start := start, stop := stop,
    info := { line := line, parameters := parameters, isAsync := isAsync } }

/-- The span of a name that is given a function as its value. -/
def valueSpan? (code skeleton : Array Char) (title : String) (start matchStop : Nat)
    (isAsync : Bool) (single : Option String) : Except Misstep (Option Span) :=
  let make := valueSpan code skeleton title start isAsync
  match single with
  | some p => some <$> make [p] matchStop
  | none => do
    let paren ← back matchStop
    let close ← partner skeleton paren
    let parameters ← parametersBetween code (paren + 1) close
    if ← usesFunctionWord skeleton title start paren then
      match ← follow skeleton bodyAfterParameters (close + 1) with
      | none => return none
      | some m => some <$> make parameters (← back m.stop)
    else
      match ← follow skeleton arrowAfterParameters (close + 1) with
      | none => return none
      | some m => some <$> make parameters m.stop

/-- Between the two positions as many braces open as close. -/
def atClassDepth (skeleton : Array Char) (start stop : Nat) : Except Misstep Bool := do
  upTo skeleton start
  upTo skeleton stop
  return JavaScript.atClassDepth skeleton start stop

/-- The methods of the class body between two braces. -/
def methodSpans (code skeleton : Array Char) (placed : List PlacedDecorator)
    (bodyOpen bodyClose : Nat) : Except Misstep (List Span) := do
  let offset := bodyOpen + 1
  let body ← part skeleton offset bodyClose
  (methodHead.findAll body).filterMapM fun m => do
    let title ← group body m 1
    let (nameStart, _) ← place m 1
    let start := offset + nameStart
    let flat ← atClassDepth skeleton offset start
    if notMethodNames.contains title || !flat then return none
    else
      let paren ← back (offset + m.stop)
      let close ← partner skeleton paren
      match ← follow skeleton bodyAfterParameters (close + 1) with
      | none => return none
      | some after =>
        let stop ← partner skeleton (← back after.stop)
        let line ← lineAt code start
        let parameters ← parametersBetween code (paren + 1) close
        let own ← decoratorsOf skeleton placed (offset + m.start)
        let before ← part skeleton (offset + m.start) start
        return some {
          name := title, start := start, stop := stop
          info := {
            line := line, parameters := parameters, decorators := own
            isAsync := (asyncBeforeName.findFrom? before 0).isSome } }

/-- The fields of the class body between two braces that hold functions. -/
def fieldSpans (code skeleton : Array Char) (bodyOpen bodyClose : Nat) :
    Except Misstep (List Span) := do
  let offset := bodyOpen + 1
  let body ← part skeleton offset bodyClose
  (memberArrowHead.findAll body).filterMapM fun m => do
    let (nameStart, _) ← place m 1
    let start := offset + nameStart
    if ← atClassDepth skeleton offset start then
      let title ← group body m 1
      valueSpan? code skeleton title start (offset + m.stop) (m.place? 2).isSome (m.group? body 3)
    else return none

/-- The class declarations of a source in order. -/
def classSpans (code skeleton : Array Char) (placed : List PlacedDecorator) :
    Except Misstep (List ClassSpan) :=
  (classHead.findAll skeleton).mapM fun m => do
    let title ← group skeleton m 1
    let bases := (m.group? skeleton 2).toList
    let bodyOpen ← back m.stop
    let bodyClose ← partner skeleton bodyOpen
    let line ← lineAt code m.start
    let own ← decoratorsOf skeleton placed m.start
    let methods ← methodSpans code skeleton placed bodyOpen bodyClose
    let fields ← fieldSpans code skeleton bodyOpen bodyClose
    return {
      name := title
      shell := {
        line := line, bases := bases, decorators := own
        isComponent := bases.any (Text.holds · "Component") || Text.endsWith title "Component" }
      bodyOpen := bodyOpen
      bodyClose := bodyClose
      members := methods ++ fields }

/-- Only blanks stand between the beginning of the line and position `i`. -/
def opensLine (skeleton : Array Char) (i : Nat) : Except Misstep Bool := do
  upTo skeleton i
  return JavaScript.opensLine skeleton i

/-- The declared functions and then the variables that hold functions. -/
def functionSpans (code skeleton : Array Char) (classes : List ClassSpan) :
    Except Misstep (List Span) := do
  let declared ← (functionHead.findAll skeleton).filterMapM fun m => do
    let paren ← back m.stop
    let close ← partner skeleton paren
    match ← follow skeleton bodyAfterParameters (close + 1) with
    | none => return none
    | some after =>
      let title ← group skeleton m 2
      let stop ← partner skeleton (← back after.stop)
      let line ← lineAt code m.start
      let parameters ← parametersBetween code (paren + 1) close
      return some {
        name := title, start := m.start, stop := stop
        info := { line := line, parameters := parameters, isAsync := (m.place? 1).isSome } }
  let held ← (variableHead.findAll skeleton).filterMapM fun m => do
    let inClass := classes.any fun c => c.bodyOpen < m.start && m.start < c.bodyClose
    let opens ← opensLine skeleton m.start
    if inClass && opens then return none
    else
      let title ← group skeleton m 1
      valueSpan? code skeleton title m.start m.stop (m.place? 2).isSome (m.group? skeleton 3)
  return (declared ++ held).map Span.marked

/-- The declarations of a masked source. -/
def declarations (m : Masked) : Except Misstep Declarations := do
  let placed ← decorators m.code m.skeleton
  let classes ← classSpans m.code m.skeleton placed
  let functions ← functionSpans m.code m.skeleton classes
  return { functions := functions, classes := classes }

/-! ## The analysis -/

/-- The imports of a source. -/
def imports (code : Array Char) : Except Misstep (Table (List String)) := do
  let clauses ← (importFrom.findAll code).mapM fun m => do
    let clause ← group code m 1
    let source ← group code m 2
    return (source, defaultNames clause ++ bracedNames clause)
  let bare ← (importBare.findAll code).mapM fun m => do return (← group code m 1, [])
  let required ← (requireCall.findAll code).mapM fun m => do
    let target ← group code m 1
    let source ← group code m 2
    return (source, requiredNames target)
  return Table.gather (clauses ++ bare ++ required)

/-- The signals of a source. Receiver, verb and path of a route are there. -/
def signals (code : Array Char) : Except Misstep (List Signal) := do
  let routes ← (routeCall.findAll code).mapM fun m => do
    let receiver ← group code m 1
    let verb ← group code m 2
    let path ← group code m 4
    return ⟨m.start, .route (routeKind receiver) (Text.upper verb) path⟩
  return stateSignals code ++ eventSignals code ++ routes

/-- Writes one signal into its owner. -/
def assign (code : Array Char) (spans : List Span) (o : Owners) (s : Signal) :
    Except Misstep Owners := do
  upTo code s.position
  return o.assign code spans s

/-- The analysis of a masked source. -/
def analyse (m : Masked) (path : String) : Except Misstep FileAnalysis := do
  let imported ← imports m.code
  let found ← declarations m
  let owners ← (← signals m.code).foldlM (assign m.code found.spans)
    ⟨found.spans.toArray, { line := 1 }⟩
  let filled := owners.spans.toList
  return {
    path := path
    language := languageOf path
    imports := imported
    functions := bySignature (filled.take found.functions.length)
    classes := classTable (filled.drop found.functions.length) found.classes []
    moduleScope := if carriesSignal owners.top then some owners.top else none }

end Checked

/-- Why no analysis comes of a source. -/
inductive Stop where
  /-- Masking refuses it. -/
  | refused (e : MaskError)
  /-- A lookup in the masked copies has no answer. -/
  | misstep (m : Misstep)
  deriving Repr, DecidableEq

/-- The analysis of a source, with every lookup checked. -/
def Checked.parse (content path : String) : Except Stop FileAnalysis := do
  let m ← (mask content.toList).mapError .refused
  (Checked.analyse m path).mapError .misstep

end RepoSurvey.JavaScript
