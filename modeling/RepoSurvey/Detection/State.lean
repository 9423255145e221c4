import RepoSurvey.Detection.Ledger
import RepoSurvey.Detection.StateTag
import RepoSurvey.Detection.Statistics
import RepoSurvey.Text.Loose

/-!
# State that a repository changes

Classes that hold state come first. Then every tag is judged once; what a
container is, by its class, its parameters and its name, counts where no tag
claimed it; after that tags that belong to no library; and at last the names
that speak of state.
-/

namespace RepoSurvey.Detection.State

open Text (Pattern isLooseLetter isWordChar)

/-! ## Classes -/

/-- The path is that of a module of models. -/
def Context.isModels (ctx : Context) : Bool :=
  Text.endsWith ctx.path "models.py"

/-- The path is that of a module of views. -/
def Context.isViews (ctx : Context) : Bool :=
  Text.endsWith ctx.path "views.py"

/-- The class is a model. -/
def isModel (c : ClassDef) : Bool :=
  c.bases.any fun base => Text.endsWith base "Model"

/-- Decorators of classes that MobX observes. -/
def mobxDecorators : List String :=
  ["observable", "observer", "computed", "action"]

/-- The state that a class holds. -/
def classChanges (ctx : Context) (name : String) (c : ClassDef) : List StateChange :=
  (if ctx.isModels && isModel c then
    [change ctx name c.line "django_create" "Django" (Text.lower name) "create" "model_class"]
  else []) ++
  (if ctx.mobx && c.decorators.any fun d => mobxDecorators.contains d.name then
    [change ctx name c.line "mobx_observable" "MobX" (Text.lower name) "create" "class_decorator"]
  else [])

/-! ## Containers -/

/-- Base classes of components. -/
def componentBases : List String :=
  ["Component", "PureComponent"]

/-- Methods that a component calls in the course of its life. -/
def lifecycleMethods : List String :=
  ["componentDidMount", "componentDidUpdate", "componentWillUnmount", "getDerivedStateFromProps"]

/-- The methods of a model and how they change it. -/
def modelMethods : List (String × String) := [
  ("save", "update"), ("create", "create"), ("update", "update"), ("delete", "delete"),
  ("get_or_create", "create"), ("update_or_create", "update")]

/-- The change that a method is. -/
def methodChange? (ctx : Context) (c : Container) (klass : ClassDef) : Option StateChange :=
  let name := c.bareName
  let here := change ctx c.name c.info.line
  let isComponent := ctx.analysis.language != "python" &&
    klass.bases.any fun base => componentBases.any (Text.holds base)
  if isComponent && name == "constructor" then
    some (here "setState" "React" "state" "create" "state_initialization")
  else if isComponent && lifecycleMethods.contains name then
    some (here "setState" "React" "lifecycle_state" "update" "lifecycle")
  else if ctx.mobx && c.info.decorators.any fun d => Text.holds d.name "action" then
    some (here "mobx_observable" "MobX" name "update" "action_decorator")
  else if ctx.isModels && isModel klass then
    (modelMethods.lookup name).map fun mutation =>
      here "django_save" "Django" (Text.lower (c.classNameOr "model")) mutation "model_method"
  else none

/-- The change that a component or a hook is, by what the file imports from React. -/
def componentChange? (ctx : Context) (c : Container) : Option StateChange :=
  let here := change ctx c.name c.info.line
  let imported := importedNames ctx.analysis.imports "react"
  if !ctx.react || !(c.info.isComponent || c.info.isHook) then none
  else if imported.contains "useState" || c.info.isHook then
    some (here "useState" "React" (hookVariable c.bareName "useState") "update" "import_analysis")
  else if imported.contains "useReducer" then
    some (here "useReducer" "React" (hookVariable c.bareName "useReducer") "update"
      "import_analysis")
  else if imported.contains "useContext" then
    some (here "useState" "React" "context" "read" "context_api")
  else none

/-- The change that a function of the toolkit is. -/
def toolkitChange? (ctx : Context) (c : Container) : Option StateChange :=
  let name := c.bareName
  let here := change ctx c.name c.info.line
  if !ctx.toolkit then none
  else if Text.holds (Text.lower name) "slice" then
    some (here "redux_reducer" "Redux Toolkit" (Text.lower (withoutEnding "Slice" name)) "create"
      "rtk_slice")
  else if Text.holds (Text.lower name) "thunk" then
    some (here "redux_action" "Redux Toolkit" (Text.lower (withoutEnding "Thunk" name)) "create"
      "rtk_thunk")
  else none

/-- A name that creates a store. -/
def storeCreation : Pattern :=
  .looseOneOf ["createstore", "configurestore", "setupstore", "initstore"]

/-- The name of a function that creates actions. -/
def actionCreator : Pattern :=
  .choice [
    .sequence [.textStart, .oneOf ["set", "update", "add", "remove", "delete", "create", "fetch",
      "load", "save"], .one isCapital],
    endingIn ["Action"], endingIn ["Creator"]]

/-- The change that a function of Redux is. -/
def reduxFunctionChange? (ctx : Context) (c : Container) : Option StateChange :=
  let name := c.bareName
  let here := change ctx c.name c.info.line
  if !ctx.redux then none
  else if storeCreation.occurs name then
    some (here "redux_action" "Redux" "store" "create" "store_creation")
  else if endsInWord ["Reducer"] name || c.info.parameters.take 2 == ["state", "action"] then
    some (here "redux_reducer" "Redux" (lowerOr "state" (withoutEnding "Reducer" name)) "update"
      "reducer")
  else if actionCreator.occurs name then
    some (here "redux_action" "Redux" (actionType name) "create" "action_creator")
  else none

/-- The name of a function that creates something observable. -/
def observableCreation : Pattern :=
  .choice [
    .sequence [.textStart, .oneOf ["createStore", "makeObservable", "observable"], .textEnd],
    endingIn ["Store"]]

/-- What the name of such a function has around the name of the store. -/
def storeWords : Pattern :=
  .choice [.seq .textStart (.literal "create"), endingIn ["Store"]]

/-- The end of the name of a view. -/
def viewEnding : Pattern :=
  .seq (.choice [.seq (.optional (.literal "_")) (.literal "view"),
    .oneOf ["View", "List", "Detail", "Create", "Update", "Delete"]]) .textEnd

/-- The change that any other function is. -/
def otherFunctionChange? (ctx : Context) (c : Container) : Option StateChange :=
  let name := c.bareName
  let here := change ctx c.name c.info.line
  if ctx.mobx && observableCreation.occurs name then
    some (here "mobx_observable" "MobX" (lowerOr "store" (erase storeWords name)) "create"
      "observable_creation")
  else if ctx.isViews && c.info.parameters.take 1 == ["request"] then
    some (here "django_save" "Django" (lowerOr "model" (Text.trimSet "_" (erase viewEnding name)))
      "update" "view_analysis")
  else none

/-- The change that a container is. -/
def structuralChange? (ctx : Context) (c : Container) : Option StateChange :=
  match c.klass? with
  | some klass => methodChange? ctx c klass
  | none =>
    [componentChange?, toolkitChange?, reduxFunctionChange?, otherFunctionChange?].findSome?
      fun change? => change? ctx c

/-! ## Vague signs -/

/-- Words at which a tag of no library is taken for a change, and how it changes. -/
def genericWords : List (String × String) := [
  ("set", "update"), ("update", "update"), ("create", "create"), ("delete", "delete"),
  ("add", "create"), ("remove", "delete")]

/-- A name before an equals sign or a parenthesis, as piece 1. -/
def genericVariable : Pattern :=
  .sequence [.capture 1 (.some1 isWordChar), .many Text.isBlank, .one (Pattern.among "=(")]

/-- The change that a tag of no library stands for. -/
def genericChange? (ctx : Context) (c : Container) (tag : String) : Option StateChange :=
  (genericWords.find? fun (word, _) => (Pattern.seq (.loose word) (.one isWordChar)).occurs tag).map
    fun (_, mutation) =>
      change ctx c.name (c.info.lineFor tag) "useState" "Generic"
        ((found? genericVariable tag).getD "state") mutation tag

/-- A name that speaks of state. -/
def stateName : Pattern :=
  .choice [
    .sequence [.many Pattern.inLine, .looseOneOf ["state", "store", "manager", "handler"],
      .textEnd],
    .looseOneOf ["manage", "handle"]]

/-- The change that the name of a container suggests. -/
def namedChange? (ctx : Context) (c : Container) : Option StateChange :=
  if begins stateName c.bareName then
    some (change ctx c.name c.info.line "useState" "Generic" (Text.lower c.bareName) "update"
      "naming_convention")
  else none

/-! ## Files and corpora -/

/-- Judges a tag. -/
def judge (ctx : Context) (c : Container) (tag : String) : Verdict StateChange :=
  match tagChange? ctx c tag with
  | some found => .found found []
  | none => .undecided

/-- The state changes of a file. -/
def detectFile (path : String) (a : FileAnalysis) : List StateChange :=
  let ctx := contextOf path a
  let cs := containers a
  let classes : Ledger String StateChange :=
    { findings := a.classes.flatMap fun (name, c) => classChanges ctx name c }
  let judged := Id.run (classes.judgeSignals (fun c => c.info.stateTags)
    (fun c tag => pure (judge ctx c tag)) cs)
  let matched := judged.matchStructure (fun c => (structuralChange? ctx c).toList) cs
  let taken := Id.run (matched.takePending (fun c tag => pure (genericChange? ctx c tag)) cs)
  (taken.matchNames (namedChange? ctx) cs).findings

/-- The state changes of a corpus in order of file and line. -/
def detect (corpus : Corpus) : List StateChange :=
  sortByPlace StateChange.file StateChange.line
    (corpus.usable.flatMap fun (path, a) => detectFile path a)

/-- The kinds of state that are always reported. -/
def kinds : List String :=
  ["useState", "useReducer", "setState", "dispatch", "redux_action", "redux_reducer",
    "mobx_observable", "django_save", "django_create", "django_update", "django_delete"]

/-- The ways to change that are always reported. -/
def mutations : List String :=
  ["create", "read", "update", "delete"]

/-- The statistics of state changes. -/
def statistics (found : List StateChange) : Json :=
  .obj [
    ("total_patterns", .nat found.length),
    ("pattern_distribution", Json.table .nat (distribution kinds (found.map StateChange.kind))),
    ("framework_distribution", Json.table .nat (Table.tally (found.map StateChange.framework))),
    ("mutation_distribution",
      Json.table .nat (distribution mutations (found.map StateChange.mutation))),
    ("files_with_state", .nat (distinct (found.map StateChange.file)).length),
    ("common_variables",
      rankingJson "name" (topCounts (found.map StateChange.variableName) usualLimit))]

/-- The report on the state changes found in a corpus. -/
def reportOf (found : List StateChange) (corpus : Corpus) : Json :=
  report (statistics found) (found.map fun f => .obj (Json.dropNulls f.fields)) corpus

end RepoSurvey.Detection.State
