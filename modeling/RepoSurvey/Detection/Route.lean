import RepoSurvey.Analysis.Hint
import RepoSurvey.Detection.Ledger
import RepoSurvey.Detection.RoutePath
import RepoSurvey.Detection.Statistics
import RepoSurvey.Text.Pattern

/-!
# Routes that a repository serves

Route hints left by the parsers, decorators of controllers, view classes and
view functions, and names that follow the conventions of handlers. A hint
belongs to one framework by its type; hints of no framework count as generic.
-/

namespace RepoSurvey.Detection.Route

open Text (Pattern)

/-! ## Verbs and classes -/

/-- The verbs of HTTP that are reported. -/
def verbs : List String :=
  ["GET", "POST", "PUT", "DELETE", "PATCH", "HEAD", "OPTIONS"]

/-- The verb that a text names, whatever its case. -/
def verb? (text : String) : Option String :=
  let verb := Text.upper text
  if verbs.contains verb then some verb else none

/-- Base classes of views. -/
def viewBases : List String :=
  ["View", "TemplateView", "ListView", "DetailView", "CreateView", "UpdateView", "DeleteView",
    "FormView", "RedirectView"]

/-- Base classes of views in the REST framework. -/
def restBases : List String :=
  ["APIView", "GenericAPIView", "ViewSet", "ModelViewSet", "ReadOnlyModelViewSet", "ListAPIView",
    "CreateAPIView", "RetrieveAPIView", "UpdateAPIView", "DestroyAPIView"]

/-- The class is a view. -/
def isView (c : ClassDef) : Bool :=
  c.bases.any fun base => viewBases.any fun view => Text.endsWith base view

/-- The class is a view of the REST framework. -/
def isRestView (c : ClassDef) : Bool :=
  c.bases.any fun base => restBases.any fun view => Text.holds base view

/-- The verbs of the actions of a view set. -/
def restActions : List (String × String) := [
  ("list", "GET"), ("create", "POST"), ("retrieve", "GET"), ("update", "PUT"),
  ("partial_update", "PATCH"), ("destroy", "DELETE")]

/-- The verbs of decorators in controllers. -/
def controllerDecorators : List (String × String) := [
  ("Get", "GET"), ("Post", "POST"), ("Put", "PUT"), ("Delete", "DELETE"), ("Patch", "PATCH"),
  ("Head", "HEAD"), ("Options", "OPTIONS")]

/-- The verbs of names that begin with a word and go on with another. -/
def namingVerbs : List (String × String) := [
  ("get", "GET"), ("post", "POST"), ("put", "PUT"), ("delete", "DELETE"), ("patch", "PATCH"),
  ("create", "POST"), ("update", "PUT"), ("remove", "DELETE")]

/-! ## Context -/

/-- What is known of a file before its containers are looked at. -/
structure Context where
  /-- The path under which it is reported. -/
  path : String
  /-- Its analysis. -/
  analysis : FileAnalysis
  /-- It imports Express. -/
  express : Bool
  /-- It imports NestJS. -/
  nest : Bool
  /-- It is a Python file that imports Django or holds views. -/
  django : Bool

/-- The context of a file. -/
def contextOf (path : String) (a : FileAnalysis) : Context where
  path := path
  analysis := a
  express := hasImport a ["express"]
  nest := a.imports.keys.any fun module =>
    Text.startsWith module "@nestjs/" || Text.holds module "nestjs"
  django := a.language == "python" &&
    (hasImport a ["django", "rest_framework"] || Text.endsWith path "views.py")

/-- A route found in a container. -/
def endpoint (ctx : Context) (c : Container) (line : Int)
    (kind framework method route source : String) :
    Endpoint where
  kind := kind
  framework := framework
  file := ctx.path
  line := line
  method := method
  route := route
  container := some c.name
  details := [("source", .str source), ("parameters", Json.strings (RoutePath.parameters route))]

/-! ## Hints -/

/-- A route hint. -/
abbrev Hint := List (String × Json)

/-- The framework that a hint belongs to. -/
inductive Origin where
  | express | nest | django | generic
  deriving Repr, DecidableEq

/-- The type of a hint. -/
def hintKind (hint : Hint) : Except Failure String :=
  Json.spelledField hint "type"

/-- The type of the hint that a decorated view function leaves. -/
def viewFunctionKind : String := "django_api_view"

/-- The framework that a hint of some type belongs to, by its container. -/
def originOf (kind : String) (c : Container) : Origin :=
  if Text.startsWith kind "express" || Text.startsWith kind "router" then .express
  else if Text.startsWith kind "nestjs" then .nest
  else if kind == viewFunctionKind then .django
  else if kind == "django_http_method" && c.klass?.any fun k => isView k || isRestView k then
    .django
  else .generic

/-- The verb of a hint: the one it gives, or else the last word of its type. -/
def hintVerb? (hint : Hint) : Except Failure (Option String) :=
  match Json.presentField? hint "method" with
  | some method => return verb? (← method.spelled)
  | none => do
    let word := Text.afterLast '_' (← hintKind hint)
    return if verbs.any fun verb => Text.lower verb == word then verb? word else none

/-- The route of a hint. -/
def hintRoute? (hint : Hint) : Except Failure (Option String) :=
  match ["route", "path", "url"].findSome? (Json.presentField? hint) with
  | some route => return some (← route.spelled)
  | none => .ok none

/-- The line of a hint, or that of its container. -/
def hintLine (hint : Hint) (c : Container) : Except Failure Int :=
  Json.lineOr c.info.line (Json.field? hint "line")

/-- The verbs that a decorated view function declares; GET when none of them is a verb. -/
def declaredVerbs (hint : Hint) : Except Failure (List String) := do
  let declared ← match Json.field? hint "methods" with
    | some (.arr items) => items.mapM Json.spelled
    | _ => .ok []
  let known := declared.filterMap verb?
  return if known.isEmpty then ["GET"] else known

/-- A list of findings as a verdict. -/
def verdictOf : List Endpoint → Verdict Endpoint
  | [] => .undecided
  | first :: more => .found first more

/-- The findings of a hint of some type that belongs to a framework. -/
def hintFindings (ctx : Context) (c : Container) (hint : Hint) (kind : String) (origin : Origin)
    (line : Int) : Except Failure (List Endpoint) :=
  match origin with
  | .generic => .ok []
  | .express => do
    match ← hintVerb? hint, ← hintRoute? hint with
    | some method, some route =>
      return [endpoint ctx c line kind "Express" method route "route_hint"]
    | _, _ => return []
  | .nest => do
    match ← hintVerb? hint, ← hintRoute? hint with
    | some method, route? =>
      return [endpoint ctx c line kind "NestJS" method (route?.getD "/") "route_hint"]
    | none, _ => return []
  | .django =>
    if kind == viewFunctionKind then do
      let methods ← declaredVerbs hint
      return methods.map fun method =>
        endpoint ctx c line kind "Django REST Framework" method (RoutePath.infer c.bareName)
          "api_view"
    else do
      match c.klass?, ← hintVerb? hint with
      | some klass, some method =>
        let route := RoutePath.infer (c.classNameOr c.bareName)
        if isRestView klass then
          return [endpoint ctx c line "django_rest_framework" "Django REST Framework" method route
            "drf_method"]
        else return [endpoint ctx c line "django_class_view" "Django" method route "class_view"]
      | _, _ => return []

/-- Judges a route hint. What is no object is no hint, and an Express hint
counts only in a file that imports Express. -/
def judge (ctx : Context) (c : Container) (value : Json) : Except Failure (Verdict Endpoint) :=
  match value with
  | .obj hint => do
    let kind ← hintKind hint
    match originOf kind c with
    | .generic => return .undecided
    | origin =>
      if origin == .express && !ctx.express then return .dismissed
      else
        let line ← hintLine hint c
        return verdictOf (← hintFindings ctx c hint kind origin line)
  | _ => .ok .dismissed

/-- The type of a hint that belongs to no framework. -/
def genericKind (hint : Hint) : Except Failure String :=
  match Json.presentField? hint "type" with
  | some kind => kind.spelled
  | none => .ok "generic"

/-- The finding of a hint that belongs to no framework. -/
def genericFinding (ctx : Context) (c : Container) (value : Json) :
    Except Failure (Option Endpoint) :=
  match value with
  | .obj hint => do
    match ← hintVerb? hint, ← hintRoute? hint with
    | some method, some route =>
      let line ← hintLine hint c
      let kind ← genericKind hint
      return some (endpoint ctx c line kind "Generic" method route "route_hint")
    | _, _ => return none
  | _ => .ok none

/-! ## Structure and names -/

/-- The first argument of a list, empty when there is none. -/
def firstArgument (d : Decorator) : String :=
  d.arguments.headD ""

/-- The part of its routes that a controller gives. -/
def controllerBase (klass : ClassDef) : String :=
  match klass.decorators.find? fun d => d.name == "Controller" && !d.arguments.isEmpty with
  | some d => firstArgument d
  | none => ""

/-- The routes of a method of a controller. -/
def controllerFindings (ctx : Context) (c : Container) (klass : ClassDef) : List Endpoint :=
  c.info.decorators.filterMap fun d =>
    (controllerDecorators.lookup d.name).map fun method =>
      endpoint ctx c c.info.line ("nestjs_" ++ Text.lower method) "NestJS" method
        (RoutePath.joined (controllerBase klass) (firstArgument d)) "decorator"

/-- The routes that a container has by what it is. -/
def structuralFindings (ctx : Context) (c : Container) : List Endpoint :=
  let line := c.info.line
  match c.klass? with
  | some klass =>
    if ctx.nest then controllerFindings ctx c klass
    else if ctx.django && isRestView klass then
      match restActions.lookup c.bareName with
      | some method =>
        [endpoint ctx c line "django_rest_framework" "Django REST Framework" method
          (RoutePath.infer (c.classNameOr c.bareName)) "drf_action"]
      | none => []
    else []
  | none =>
    if ctx.django && c.info.parameters.any fun p => Text.holds (Text.lower p) "request" then
      [endpoint ctx c line "django_view" "Django" "GET" (RoutePath.infer c.bareName)
        "function_view"]
    else []

/-- Routes of view classes of which no handler was found. -/
def classDefaults (ctx : Context) (found : List Endpoint) : List Endpoint :=
  if !ctx.django then []
  else
    let names := (found.filterMap Endpoint.container).filter fun name => !name.isEmpty
    let covered := names.map (Text.beforeFirst '.')
    let views := ctx.analysis.classes.filter fun (name, klass) =>
      !covered.contains name && (isView klass || isRestView klass)
    views.map fun (name, klass) =>
      { kind := if isRestView klass then "django_rest_framework" else "django_class_view"
        framework := if isRestView klass then "Django REST Framework" else "Django"
        file := ctx.path
        line := klass.line
        method := "GET"
        route := RoutePath.infer name
        container := some name
        details := [("source", .str "class_default"), ("parameters", .arr [])] }

/-- What follows a word at the beginning of a name, when it is a word of its own. -/
def namedResource? (name word : String) : Option String :=
  match Text.stripStart? word.toList name.toList with
  | some (c :: rest) =>
    if 'A' ≤ c && c ≤ 'Z' then some (String.ofList (c :: rest.takeWhile Char.isAlpha)) else none
  | _ => none

/-- The route that the name of a container suggests. -/
def namedFinding (ctx : Context) (c : Container) : Option Endpoint :=
  namingVerbs.findSome? fun (word, method) =>
    (namedResource? c.bareName word).map fun resource =>
      endpoint ctx c c.info.line "express_handler" "Express" method ("/" ++ Text.lower resource)
        "naming_convention"

/-! ## Files and corpora -/

/-- The routes of a file. -/
def detectFile (path : String) (a : FileAnalysis) : Except Failure (List Endpoint) := do
  let ctx := contextOf path a
  let cs := containers a
  let judged ← ({} : Ledger Json Endpoint).judgeSignals (fun c => c.info.routeHints) (judge ctx) cs
  let matched := judged.matchStructure (structuralFindings ctx) cs
  let defaulted := matched.note (classDefaults ctx matched.findings)
  let taken ← defaulted.takePending (genericFinding ctx) cs
  let named := if ctx.express then taken.matchNames (namedFinding ctx) cs else taken
  return named.findings

/-- The routes of a corpus in order of file and line. -/
def detect (corpus : Corpus) : Except Failure (List Endpoint) := do
  let found ← corpus.usable.mapM fun (path, a) => detectFile path a
  return sortByPlace Endpoint.file Endpoint.line found.flatten

/-- The statistics of routes. -/
def statistics (found : List Endpoint) : Json :=
  .obj [
    ("total_endpoints", .nat found.length),
    ("method_distribution", Json.table .nat (distribution verbs (found.map Endpoint.method))),
    ("framework_distribution", Json.table .nat (Table.tally (found.map Endpoint.framework))),
    ("files_with_endpoints", Json.strings ((distinct (found.map Endpoint.file)).mergeSort
      fun a b => decide (a ≤ b))),
    ("common_patterns", rankingJson "pattern" (topCounts
      ((found.filter fun e => !e.route.isEmpty).map fun e => RoutePath.normalize e.route)
      usualLimit))]

/-- The report on the routes found in a corpus. -/
def reportOf (found : List Endpoint) (corpus : Corpus) : Json :=
  report (statistics found) (found.map fun e => .obj (Json.dropNulls e.fields)) corpus

end RepoSurvey.Detection.Route
