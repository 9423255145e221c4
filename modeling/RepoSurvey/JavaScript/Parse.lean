import RepoSurvey.JavaScript.Imports
import RepoSurvey.JavaScript.Mask
import RepoSurvey.JavaScript.Signal
import RepoSurvey.JavaScript.Span

/-!
# Analysis of JavaScript and TypeScript

A source is masked, its declarations are found, and every signal is written
into the innermost callable around it, or into the top level when it stands
in none. Functions and methods are kept under their signatures; of two with
one signature the first is kept.
-/

namespace RepoSurvey.JavaScript

/-! ## Ownership -/

/-- The span at a place of a list, with that place. -/
abbrev Placed := Nat × Span

/-- The span encloses the position. -/
def Span.covers (s : Span) (position : Nat) : Bool :=
  s.start ≤ position && position ≤ s.stop

/-- The place of the shortest span around `position` among those shorter than
`extent`; the first of several with the same length. -/
def ownerAmong (position : Nat) (best : Option Nat) (extent : Int) : List Placed → Option Nat
  | [] => best
  | (place, s) :: rest =>
    if s.covers position && s.extent < extent then ownerAmong position (some place) s.extent rest
    else ownerAmong position best extent rest

/-- The place of the callable that owns a position of a text of `size`
characters; none when the top level owns it. -/
def owner (spans : List Span) (size position : Nat) : Option Nat :=
  ownerAmong position none size (spans.zipIdx.map fun (s, place) => (place, s))

/-! ## Writing signals into callables -/

/-- The hint that a route leaves. -/
def routeHint (kind method path : String) (line : Int) : Json :=
  .obj [("type", .str kind), ("method", .str method), ("route", .str path), ("line", .int line)]

/-- Writes a mark found on `line` into a callable. The first of several equal
tags gives the line. -/
def record (f : Callable) (mark : Mark) (line : Int) : Callable :=
  match mark with
  | .state tag =>
    if f.stateTags.contains tag then f
    else { f with stateTags := f.stateTags ++ [tag], tagLines := f.tagLines.set tag line }
  | .event tag =>
    if f.eventTags.contains tag then f
    else { f with eventTags := f.eventTags ++ [tag], tagLines := f.tagLines.set tag line }
  | .route kind method path =>
    { f with routeHints := f.routeHints ++ [routeHint kind method path line] }

/-- The spans and the top level, as signals are written into them. -/
structure Owners where
  /-- Functions and methods. -/
  spans : Array Span
  /-- The top level. -/
  top : Callable

/-- Writes one signal into its owner. -/
def Owners.assign (o : Owners) (code : Array Char) (spans : List Span) (s : Signal) : Owners :=
  let line := lineAt code s.position
  match owner spans code.size s.position with
  | none => { o with top := record o.top s.mark line }
  | some place =>
    { o with spans :=
        o.spans.modify place fun span => { span with info := record span.info s.mark line } }

/-- Writes every signal of the code into its owner. -/
def assignAll (code : Array Char) (spans : List Span) : Owners :=
  (signals code).foldl (fun o s => o.assign code spans s) ⟨spans.toArray, { line := 1 }⟩

/-! ## Declarations -/

/-- The declarations of a source. -/
structure Declarations where
  /-- The functions that belong to no class. -/
  functions : List Span
  /-- The classes with their members. -/
  classes : List ClassSpan

/-- The declarations of a masked source. -/
def Masked.declarations (m : Masked) : Declarations :=
  let classes := classSpans m.code m.skeleton (decorators m.code m.skeleton)
  { functions := functionSpans m.code m.skeleton classes, classes := classes }

/-- All callables: the functions, and then the members of class after class. -/
def Declarations.spans (d : Declarations) : List Span :=
  d.functions ++ d.classes.flatMap (·.members)

/-! ## The analysis -/

/-- The callables of a list of spans by signature, the first of each. -/
def bySignature (spans : List Span) : Table Callable :=
  spans.foldl (fun t s => t.setNew s.signature s.info) []

/-- The classes by name, the first of each; the members of the classes are
taken from `members`, which holds them class after class. -/
def classTable (members : List Span) : List ClassSpan → Table ClassDef → Table ClassDef
  | [], t => t
  | c :: rest, t =>
    let own := members.take c.members.length
    classTable (members.drop c.members.length) rest
      (t.setNew c.name { c.shell with methods := bySignature own })

/-- The callable carries a signal. -/
def carriesSignal (f : Callable) : Bool :=
  !f.stateTags.isEmpty || !f.eventTags.isEmpty || !f.routeHints.isEmpty

/-- The endings of TypeScript files. -/
def typeScriptEndings : List String :=
  [".ts", ".tsx", ".mts", ".cts"]

/-- The language of a path that holds one of the two. -/
def languageOf (path : String) : String :=
  if typeScriptEndings.any (Text.endsWith (Text.lower path)) then "typescript" else "javascript"

/-- The analysis of a masked source. -/
def analyse (m : Masked) (path : String) : FileAnalysis :=
  let found := m.declarations
  let owners := assignAll m.code found.spans
  let filled := owners.spans.toList
  { path := path
    language := languageOf path
    imports := imports m.code
    functions := bySignature (filled.take found.functions.length)
    classes := classTable (filled.drop found.functions.length) found.classes []
    moduleScope := if carriesSignal owners.top then some owners.top else none }

/-- The analysis of a source; the only failures are those of masking. -/
def parse (content path : String) : Except MaskError FileAnalysis :=
  (mask content.toList).map (analyse · path)

end RepoSurvey.JavaScript
