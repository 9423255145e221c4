import RepoSurvey.Analysis.File
import RepoSurvey.Python.Statement
import RepoSurvey.Python.Written
import RepoSurvey.Text.Casing

/-!
# Analysis of Python

Imports are taken from every depth of a source, outer ones first; functions
and classes from its top level, with the methods of the classes. Calls on an
object are tags of the function or method they stand in, wherever they are
nested inside it; those of the remaining top-level statements belong to the
top level.
-/

namespace RepoSurvey.Python

/-- Why a source has no analysis. -/
inductive ParseError where
  /-- The source does not follow the grammar. -/
  | rejected
  /-- An expression that is to be written out cannot be. -/
  | unwritable (e : Unwritable)
  deriving Repr, DecidableEq

/-! ## Calls on objects -/

/-- A call of an attribute: where it stands, on what, and its name. -/
structure MethodCall where
  /-- Where the call starts. -/
  position : Position
  /-- The object it is made on. -/
  receiver : Expr
  /-- The attribute that is called. -/
  attr : String

/-- The call itself, when it calls an attribute. -/
def ownCall (position : Position) : Expr → List MethodCall
  | .attribute receiver attr => [⟨position, receiver, attr⟩]
  | _ => []

mutual

/-- The calls on objects in an expression, outer ones before inner ones. -/
def Expr.calls : Expr → List MethodCall
  | .name _ => []
  | .constant _ => []
  | .joined parts => partCalls parts
  | .attribute value _ => value.calls
  | .subscript value index => value.calls ++ index.calls
  | .call position func args keywords =>
    ownCall position func ++ func.calls ++ allCalls args ++ keywordCalls keywords
  | .starred value => value.calls
  | .tuple items => allCalls items
  | .list items => allCalls items
  | .set items => allCalls items
  | .dict entries => entryCalls entries
  | .listComp item clauses => item.calls ++ clauseCalls clauses
  | .setComp item clauses => item.calls ++ clauseCalls clauses
  | .generator item clauses => item.calls ++ clauseCalls clauses
  | .dictComp key value clauses => key.calls ++ value.calls ++ clauseCalls clauses
  | .slice lower upper step => optionCalls lower ++ optionCalls upper ++ optionCalls step
  | .boolean _ values => allCalls values
  | .binary left _ right => left.calls ++ right.calls
  | .unary _ operand => operand.calls
  | .compare first links => first.calls ++ linkCalls links
  | .named target value => target.calls ++ value.calls
  | .lambda params body => paramCalls params ++ body.calls
  | .conditional test body orelse => test.calls ++ body.calls ++ orelse.calls
  | .await value => value.calls
  | .yield value => optionCalls value
  | .yieldFrom value => value.calls

/-- The calls in several expressions. -/
def allCalls : List Expr → List MethodCall
  | [] => []
  | e :: rest => e.calls ++ allCalls rest

/-- The calls in an expression that may be missing. -/
def optionCalls : Option Expr → List MethodCall
  | none => []
  | some e => e.calls

/-- The calls in pieces of a formatted string. -/
def partCalls : List Part → List MethodCall
  | [] => []
  | .text _ :: rest => partCalls rest
  | .place value _ format :: rest => value.calls ++ formatCalls format ++ partCalls rest

/-- The calls in the format of a place. -/
def formatCalls : Option (List Part) → List MethodCall
  | none => []
  | some parts => partCalls parts

/-- The calls in arguments by name. -/
def keywordCalls : List Keyword → List MethodCall
  | [] => []
  | .mk _ value :: rest => value.calls ++ keywordCalls rest

/-- The calls in entries of a dictionary. -/
def entryCalls : List Entry → List MethodCall
  | [] => []
  | .mk key value :: rest => optionCalls key ++ value.calls ++ entryCalls rest

/-- The calls in clauses of a comprehension. -/
def clauseCalls : List Clause → List MethodCall
  | [] => []
  | .mk _ target source conditions :: rest =>
    target.calls ++ source.calls ++ allCalls conditions ++ clauseCalls rest

/-- The calls in the links of a comparison. -/
def linkCalls : List Link → List MethodCall
  | [] => []
  | .mk _ operand :: rest => operand.calls ++ linkCalls rest

/-- The calls in parameters. -/
def paramCalls : List Param → List MethodCall
  | [] => []
  | .mk _ _ note value :: rest => optionCalls note ++ optionCalls value ++ paramCalls rest

end

mutual

/-- The calls on objects in a statement and in everything nested in it. -/
def Stmt.calls : Stmt → List MethodCall
  | .function _ _ _ params returns decorators body =>
    paramCalls params ++ bodyCalls body ++ allCalls decorators ++ optionCalls returns
  | .classDef _ _ bases keywords decorators body =>
    allCalls bases ++ keywordCalls keywords ++ bodyCalls body ++ allCalls decorators
  | .expression value => value.calls
  | .simple parts => allCalls parts
  | .importModules _ => []
  | .importFrom _ _ _ => []
  | .compound heads suites => allCalls heads ++ suiteCalls suites

/-- The calls in several statements. -/
def bodyCalls : List Stmt → List MethodCall
  | [] => []
  | s :: rest => s.calls ++ bodyCalls rest

/-- The calls in suites. -/
def suiteCalls : List Suite → List MethodCall
  | [] => []
  | .body statements :: rest => bodyCalls statements ++ suiteCalls rest
  | .clause heads statements :: rest => allCalls heads ++ bodyCalls statements ++ suiteCalls rest

end

/-- One place is not after another. -/
def Position.le (a b : Position) : Bool :=
  a.line < b.line || (a.line == b.line && a.column ≤ b.column)

/-- Calls in the order of the source. -/
def inOrder (calls : List MethodCall) : List MethodCall :=
  calls.mergeSort fun a b => a.position.le b.position

/-! ## Tags -/

/-- Methods that change stored records. -/
def recordMethods : List String :=
  ["save", "create", "update", "delete", "bulk_create", "get_or_create", "update_or_create"]

/-- Methods that handle signals. -/
def signalMethods : List String :=
  ["connect", "send", "send_robust", "disconnect"]

/-- Writes the tag of a call into a callable. -/
def recordCall (f : Callable) (c : MethodCall) : Except Unwritable Callable := do
  let receiver ← c.receiver.dottedText
  if recordMethods.contains c.attr then
    let tag := receiver ++ "." ++ c.attr ++ "("
    if f.stateTags.contains tag then return f
    else return { f with
      stateTags := f.stateTags ++ [tag], tagLines := f.tagLines.set tag c.position.line }
  else if signalMethods.contains c.attr then
    let tag := receiver ++ "." ++ c.attr
    if f.eventTags.contains tag then return f
    else return { f with
      eventTags := f.eventTags ++ [tag], tagLines := f.tagLines.set tag c.position.line }
  else return f

/-- Writes the tags of calls into a callable, in the order of the source. -/
def recordCalls (f : Callable) (calls : List MethodCall) : Except Unwritable Callable :=
  (inOrder calls).foldlM recordCall f

/-! ## Imports -/

/-- The entry of an imported module. -/
def Alias.entry (a : Alias) : String × List String :=
  match a.local? with
  | some title => (a.name, [a.name ++ " as " ++ title])
  | none => (a.name, [a.name])

/-- Lists by level, joined level by level. -/
def joinLevels {α : Type} : List (List α) → List (List α) → List (List α)
  | [], ys => ys
  | xs, [] => xs
  | x :: xs, y :: ys => (x ++ y) :: joinLevels xs ys

mutual

/-- The imports in a statement by depth: its own first, then those one level
down, and so on. -/
def Stmt.imports : Stmt → List (List (String × List String))
  | .importModules names => [names.map Alias.entry]
  | .importFrom level module names =>
    [[(String.ofList (List.replicate level '.') ++ module, names.map Alias.name)]]
  | .function _ _ _ _ _ _ body => [] :: bodyImports body
  | .classDef _ _ _ _ _ body => [] :: bodyImports body
  | .compound _ suites => [] :: suiteImports suites
  | .expression _ => []
  | .simple _ => []

/-- The imports in several statements by depth. -/
def bodyImports : List Stmt → List (List (String × List String))
  | [] => []
  | s :: rest => joinLevels s.imports (bodyImports rest)

/-- The imports in suites by depth. A handler or a case is a level of its own. -/
def suiteImports : List Suite → List (List (String × List String))
  | [] => []
  | .body statements :: rest => joinLevels (bodyImports statements) (suiteImports rest)
  | .clause _ statements :: rest => joinLevels ([] :: bodyImports statements) (suiteImports rest)

end

/-- The imports of a source, outer ones first. -/
def importTable (body : List Stmt) : Table (List String) :=
  Table.gather (bodyImports body).flatten

/-! ## Documentation -/

/-- Tabs replaced by blanks up to the next multiple of eight columns. -/
def expandTabs (column : Nat) : List Char → List Char
  | [] => []
  | c :: rest =>
    if c == '\t' then
      let width := 8 - column % 8
      List.replicate width ' ' ++ expandTabs (column + width) rest
    else if c == '\n' || c == '\r' then c :: expandTabs 0 rest
    else c :: expandTabs (column + 1) rest

/-- The number of blanks that a line begins with; nothing for a blank line. -/
def indentWidth? (line : List Char) : Option Nat :=
  let content := line.dropWhile Text.isBlank
  if content.isEmpty then none else some (line.length - content.length)

/-- A documentation text without the indentation that its lines share, and
without empty lines at either end. -/
def cleanDoc (cs : List Char) : List Char :=
  let lines := Text.splitAt '\n' (expandTabs 0 cs)
  let first := (lines.take 1).map fun line => line.dropWhile Text.isBlank
  let others := lines.drop 1
  let margin := (others.filterMap indentWidth?).min?
  let others := match margin with
    | some m => others.map (·.drop m)
    | none => others
  let all := (first ++ others).dropWhile (·.isEmpty)
  let all := (all.reverse.dropWhile (·.isEmpty)).reverse
  ['\n'].intercalate all

/-- The documentation at the beginning of a body. -/
def docstring : List Stmt → String
  | .expression (.constant (.text cs _)) :: _ => String.ofList (cleanDoc cs)
  | _ => ""

/-! ## Decorators -/

/-- The text of a constant, when it is one. -/
def Expr.textValue? : Expr → Option String
  | .constant (.text cs _) => some (String.ofList cs)
  | _ => none

/-- A text as it is, any other expression written out. -/
def plainArgument (e : Expr) : Except Unwritable String :=
  match e.textValue? with
  | some s => .ok s
  | none => e.text

/-- The texts of an argument by position; a list or a tuple gives one for each item. -/
def argumentTexts (e : Expr) : Except Unwritable (List String) :=
  match e with
  | .list items => items.mapM plainArgument
  | .tuple items => items.mapM plainArgument
  | _ => return [← plainArgument e]

/-- The texts of an argument by name; a spread mapping gives none. -/
def keywordTexts : Keyword → Except Unwritable (List String)
  | .mk (some name) value => return [name ++ "=" ++ (← value.text)]
  | .mk none _ => .ok []

/-- A decorator from its expression. -/
def decoratorOf : Expr → Except Unwritable Decorator
  | .call _ func args keywords => do
    let title ← func.dottedText
    let positional ← args.mapM argumentTexts
    let named ← keywords.mapM keywordTexts
    return ⟨title, positional.flatten ++ named.flatten⟩
  | e => return ⟨← e.dottedText, []⟩

/-! ## Routes -/

/-- The HTTP verbs. -/
def verbs : List String :=
  ["GET", "POST", "PUT", "PATCH", "DELETE", "HEAD", "OPTIONS"]

/-- The verbs among the arguments of a view decorator; one that names none serves GET. -/
def viewVerbs (arguments : List String) : List String :=
  let named := (arguments.map Text.upper).filter verbs.contains
  if named.isEmpty then ["GET"] else named

/-- The route hints of a function on a line. -/
def routeHints (line : Nat) (name : String) (decorators : List Decorator) (isMethod : Bool) :
    List Json :=
  let views := decorators.filter fun d => Text.afterLast '.' d.name == "api_view"
  (views.map fun d => Json.obj [
    ("type", .str "django_api_view"), ("methods", Json.strings (viewVerbs d.arguments)),
    ("line", .int line)]) ++
  if isMethod && (verbs.map Text.lower).contains (Text.lower name) then
    [.obj [("type", .str "django_http_method"), ("method", .str (Text.upper name)),
      ("line", .int line)]]
  else []

/-! ## The analysis -/

/-- The parameters as an analysis lists them. -/
def parameterNames (params : List Param) : List String :=
  params.map fun p => p.kind.stars ++ p.name

/-- The signature and description of a function; nothing for another statement. -/
def functionOf? (isMethod : Bool) (s : Stmt) : Except Unwritable (Option (String × Callable)) :=
  match s with
  | .function line isAsync name params _ decorators body => do
    let decorated ← decorators.mapM decoratorOf
    let names := parameterNames params
    let bare : Callable := {
      line := line, docstring := docstring body, parameters := names
      decorators := decorated, isAsync := isAsync }
    let tagged ← recordCalls bare s.calls
    return some (signatureOf name names,
      { tagged with routeHints := routeHints line name decorated isMethod })
  | _ => .ok none

/-- The functions among statements by signature; the last of one signature counts. -/
def functionTable (isMethod : Bool) (body : List Stmt) : Except Unwritable (Table Callable) :=
  body.foldlM (fun t s => do
    match ← functionOf? isMethod s with
    | some (signature, f) => return Table.set t signature f
    | none => return t) []

/-- The classes among statements by name; the last of one name counts. -/
def classTable (body : List Stmt) : Except Unwritable (Table ClassDef) :=
  body.foldlM (fun t s => do
    match s with
    | .classDef line name bases _ decorators inner =>
      let methods ← functionTable true inner
      let bases ← bases.mapM Expr.dottedText
      let decorated ← decorators.mapM decoratorOf
      return Table.set t name {
        line := line, docstring := docstring inner, methods := methods
        bases := bases, decorators := decorated }
    | _ => return t) []

/-- The statement defines a function or a class. -/
def Stmt.isDefinition : Stmt → Bool
  | .function .. => true
  | .classDef .. => true
  | _ => false

/-- The top level with the tags of each statement that defines nothing, in turn. -/
def topLevel (body : List Stmt) : Except Unwritable Callable :=
  (body.filter fun s => !s.isDefinition).foldlM (fun f s => recordCalls f s.calls) { line := 1 }

/-- The analysis of a tree. -/
def analyse (body : List Stmt) (path : String) : Except Unwritable FileAnalysis := do
  let functions ← functionTable false body
  let classes ← classTable body
  let top ← topLevel body
  return {
    path := path
    language := "python"
    imports := importTable body
    functions := functions
    classes := classes
    moduleScope := if top.stateTags.isEmpty && top.eventTags.isEmpty then none else some top }

/-- The analysis of a source. -/
def parse (content path : String) : Except ParseError FileAnalysis :=
  match module? content with
  | none => .error .rejected
  | some body =>
    match analyse body path with
    | .ok a => .ok a
    | .error e => .error (.unwritable e)

end RepoSurvey.Python
