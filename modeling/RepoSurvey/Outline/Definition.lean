import RepoSurvey.Analysis.File
import RepoSurvey.Outline.Grammar
import RepoSurvey.Outline.Node
import RepoSurvey.Text.Casing
import RepoSurvey.Text.Pattern

/-!
# Definitions in a syntax tree

What a node that defines a function or a class says about it: its name,
parameters, base classes and decorators. The tree gives the spans, and the
texts of the spans are taken apart here.
-/

namespace RepoSurvey.Outline

open Text (Pattern Match isWordOrDollar)

/-! ## Words in a text -/

/-- The first character of an identifier. -/
def startsIdentifier (c : Char) : Bool :=
  c.isAlpha || c == '_' || c == '$'

/-- An identifier. -/
def identifier : Pattern :=
  .seq (.one startsIdentifier) (.many isWordOrDollar)

/-- An identifier that may have points in it. -/
def dottedIdentifier : Pattern :=
  .seq (.one startsIdentifier) (.many fun c => isWordOrDollar c || c == '.')

/-- The texts of all matches of a pattern. -/
def matchedTexts (p : Pattern) (s : String) : List String :=
  let text := s.toList.toArray
  (p.findAll text).map fun m => Match.textBetween text m.start m.stop

/-! ## Lists in a text -/

/-- How a character changes the depth of brackets; angle brackets count. -/
def depthStep (c : Char) : Int :=
  if ['(', '[', '{', '<'].contains c then 1
  else if [')', ']', '}', '>'].contains c then -1
  else 0

/-- The pieces between commas outside all brackets. `piece` holds the piece
being read, last character first. -/
def piecesFrom (depth : Int) (piece : List Char) : List Char → List (List Char)
  | [] => [piece.reverse]
  | c :: rest =>
    let depth := depth + depthStep c
    if c == ',' && depth == 0 then piece.reverse :: piecesFrom depth [] rest
    else piecesFrom depth (c :: piece) rest

/-- The trimmed pieces of a list that hold something. -/
def listPieces (s : String) : List String :=
  ((piecesFrom 0 [] s.toList).map fun cs => Text.trim (String.ofList cs)).filter fun p => !p.isEmpty

/-- Without the parentheses around a text. -/
def withoutParentheses (s : String) : String :=
  let s := Text.trim s
  if Text.startsWith s "(" && Text.endsWith s ")" then String.ofList (s.toList.drop 1).dropLast
  else s

/-- The mark of a parameter that collects several arguments. -/
def collectMark (s : String) : String :=
  (["**", "*", "..."].find? fun mark => Text.startsWith s mark).getD ""

/-- The name of a parameter, with its mark. -/
def parameterName? (typed : Bool) (piece : String) : Option String :=
  let piece := Text.trim (Text.beforeFirst '=' piece)
  let piece := if typed then piece else Text.trim (Text.beforeFirst ':' piece)
  let names := matchedTexts identifier piece
  (if typed then names.getLast? else names.head?).map fun name => collectMark piece ++ name

/-- The names in a parameter list. -/
def parameterNames (typed : Bool) (text : String) : List String :=
  let pieces := listPieces (Text.trimSet "\x7b\x7d[] " (withoutParentheses text))
  pieces.filterMap (parameterName? typed)

/-! ## Parts of a definition -/

/-- The node that holds the parameters of a definition. It may be buried in
declarators. -/
def parametersNode? (n : Node) : Option Node :=
  let direct := n.child? "parameters"
  let buried := (n.chain "declarator").findSome? fun d => d.child? "parameters"
  let listed := (n.childrenOf ["formal_parameter_list", "formal_parameters"]).head?
  (direct.or buried).or listed

/-- The names of the parameters under a node, if there is one. -/
def namesUnder (g : Grammar) (source : ByteArray) (parameters : Option Node) : List String :=
  match parameters with
  | some p => parameterNames g.typedParameters (p.text source)
  | none => []

/-- The node that holds the name of a definition. -/
def nameNode? (n : Node) : Option Node :=
  let buried := (n.chain "declarator").find? fun d =>
    ["identifier", "field_identifier", "qualified_identifier", "destructor_name"].contains d.kind
  ((n.child? "name").or buried).or (n.childrenOf ["identifier"]).head?

/-- The name of a definition, empty when it has none. -/
def nameOf (source : ByteArray) (n : Node) : String :=
  match nameNode? n with
  | some name => name.text source
  | none => ""

/-- Words among base classes that name none. -/
def baseKeywords : List String :=
  ["extends", "implements", "with", "public", "private", "protected", "virtual", "object"]

/-- Nodes that name base classes, each place in the source once. -/
def baseNodes (g : Grammar) (n : Node) : List Node :=
  let candidates := (n.child? "superclasses").toList ++ (n.child? "superclass").toList ++
    n.childrenOf g.bases
  candidates.foldl
    (fun kept c => if kept.any fun k => k.start == c.start then kept else kept ++ [c]) []

/-- The names of the base classes of a definition, each once. -/
def basesOf (g : Grammar) (source : ByteArray) (n : Node) : List String :=
  let tokens := (baseNodes g n).flatMap fun c => matchedTexts dottedIdentifier (c.text source)
  distinct (tokens.filter fun t => !baseKeywords.contains t)

/-! ## Decorators -/

/-- The kinds of nodes that decorate. -/
def decoratorKinds : List String :=
  ["decorator", "annotation", "marker_annotation"]

/-- A decorator: its name is piece 1 and its arguments are piece 2. -/
def decoratorText : Pattern :=
  .sequence [.one (· == '@'), .capture 1 (.some1 fun c => isWordOrDollar c || c == '.'),
    .many Text.isBlank,
    .optional (.sequence [.one (· == '('), .capture 2 (.many fun _ => true), .one (· == ')')])]

/-- The decorator that a text writes. -/
def decoratorOfText? (s : String) : Option Decorator :=
  (decoratorText.opens? (Text.trim s)).map fun (m, text) =>
    { name := m.group text 1
      arguments := (listPieces (m.group text 2)).map fun a => Text.trimSet "'\"\x60" (Text.trim a) }

/-- The decorators of a definition, also those among its modifiers. -/
def decoratorsOf (source : ByteArray) (n : Node) : List Decorator :=
  let nodes := n.childrenOf decoratorKinds ++
    (n.childrenOf ["modifiers"]).flatMap fun m => m.childrenOf decoratorKinds
  nodes.filterMap fun d => decoratorOfText? (d.text source)

/-! ## Functions -/

/-- The text begins as an asynchronous definition does. -/
def isAsyncText (s : String) : Bool :=
  Text.startsWith (Text.trimStart s) "async"

/-- The text begins as the name of a hook does. -/
def beginsAsHook (s : String) : Bool :=
  match s.toList with
  | 'u' :: 's' :: 'e' :: c :: _ => ('A' ≤ c && c ≤ 'Z') || ('0' ≤ c && c ≤ '9')
  | _ => false

/-- The function that a node defines, with its signature. A node without a
name defines none. -/
def functionOf? (g : Grammar) (source : ByteArray) (decorators : List Decorator) (n : Node) :
    Option (String × Callable) :=
  let name := nameOf source n
  let parameters := namesUnder g source (parametersNode? n)
  if name.isEmpty then none
  else some (signatureOf name parameters, {
    line := n.line
    parameters := parameters
    decorators := decorators
    isAsync := isAsyncText (n.text source) })

/-- The kinds of values that are functions. -/
def functionValues : List String :=
  ["arrow_function", "function", "function_expression", "generator_function"]

/-- The function that a declared variable has as its value. -/
def functionValue? (n : Node) : Option Node :=
  (n.child? "value").filter fun v => functionValues.contains v.kind

/-- The function kept in a declared variable, with its signature. -/
def variableFunction? (g : Grammar) (source : ByteArray) (n value : Node) :
    Option (String × Callable) :=
  match n.child? "name" with
  | none => none
  | some nameNode =>
    if nameNode.kind != "identifier" then none
    else
      let name := nameNode.text source
      let parameters :=
        namesUnder g source ((value.child? "parameters").or (value.child? "parameter"))
      some (signatureOf name parameters, {
        line := n.line
        parameters := parameters
        isComponent := Text.beginsUpper name
        isHook := beginsAsHook name
        isAsync := isAsyncText (value.text source) })

end RepoSurvey.Outline
