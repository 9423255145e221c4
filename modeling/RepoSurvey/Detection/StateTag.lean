import RepoSurvey.Detection.Container
import RepoSurvey.Detection.Naming

/-!
# Tags of state changes

A tag is the text that a parser leaves where state changes. Each tag belongs
to one library, which the tag and the imports of the file decide together, or
to none. A tag that belongs to a library always stands for one change, and the
text of the tag says which variable changes.
-/

namespace RepoSurvey.Detection.State

open Text (Pattern Match isBlank isWordChar isWordOrDollar)

/-! ## Context -/

/-- What is known of a file before its containers are looked at. -/
structure Context where
  /-- The path under which it is reported. -/
  path : String
  /-- Its analysis. -/
  analysis : FileAnalysis
  /-- It imports React. -/
  react : Bool
  /-- It imports Redux. -/
  redux : Bool
  /-- It imports the toolkit for Redux. -/
  toolkit : Bool
  /-- It imports MobX. -/
  mobx : Bool
  /-- It is a Python file that imports Django. -/
  django : Bool

/-- The context of a file. -/
def contextOf (path : String) (a : FileAnalysis) : Context where
  path := path
  analysis := a
  react := hasImport a ["react", "@types/react"]
  redux := hasImport a ["redux", "react-redux", "@reduxjs/toolkit"]
  toolkit := hasImport a ["@reduxjs/toolkit"]
  mobx := hasImport a ["mobx", "mobx-react", "mobx-react-lite", "mobx-state-tree"]
  django := a.language == "python" && hasImport a ["django"]

/-- A change of state in a file. -/
def change (ctx : Context) (container : String) (line : Int)
    (kind framework variableName mutation source : String) : StateChange where
  kind := kind
  framework := framework
  file := ctx.path
  line := line
  variableName := variableName
  mutation := mutation
  container := some container
  details := [("source", .str source)]

/-! ## Forms of tags -/

/-- Texts of which a React tag holds one. -/
def reactWords : List String :=
  ["useState", "useReducer", "setState", "dispatch", "useSelector"]

/-- A call of a setter. -/
def setterCall : Pattern :=
  .sequence [.literal "set", .one isCapital, .many isWordOrDollar, .literal "(", .textEnd]

/-- The beginning of a destructured hook; the variable is piece 1. -/
def destructured : Pattern :=
  .seq (.literal "[") (.capture 1 (.some1 isWordOrDollar))

/-- A call of setState; the key is piece 1. -/
def stateKey : Pattern :=
  .sequence [.literal "setState", .many isBlank, .literal "(", .many isBlank, .literal "\x7b",
    .many isBlank, .capture 1 (.some1 fun c => Pattern.otherThan ":\x7d," c && !isBlank c)]

/-- The type of an action, as piece 1. -/
def dispatchedType : Pattern :=
  .sequence [.literal "type:", .many isBlank, .one (Pattern.among "'\""),
    .capture 1 (.some1 (Pattern.otherThan "'\"")), .one (Pattern.among "'\"")]

/-- The call that makes an action, with its name as piece 1. -/
def dispatchedCall : Pattern :=
  .sequence [.literal "dispatch(", .many isBlank, .capture 1 (.some1 isWordOrDollar), .literal "("]

/-- A call of MobX. -/
def mobxCall : Pattern :=
  .sequence [.oneOf ["makeAutoObservable", "makeObservable", "observable", "runInAction", "action",
    "computed"], .literal "(", .textEnd]

/-- The methods that change a model, with the kind of the change and how it changes. -/
def modelChanges : List (String × String × String) := [
  ("save", "django_save", "update"),
  ("create", "django_create", "create"),
  ("update", "django_update", "update"),
  ("delete", "django_delete", "delete"),
  ("bulk_create", "django_create", "create"),
  ("get_or_create", "django_create", "create"),
  ("update_or_create", "django_update", "update")]

/-- A call that changes a model; the method is piece 1. -/
def modelCall : Pattern :=
  .sequence [.literal ".", .capture 1 (.oneOf (modelChanges.map (·.1))), .literal "(", .textEnd]

/-- The model that a manager belongs to, as piece 1. -/
def managedModel : Pattern :=
  .seq (.capture 1 (.some1 isWordChar)) (.literal ".objects.")

/-- The instance that is saved or deleted, as piece 1. -/
def savedInstance : Pattern :=
  .sequence [.capture 1 (.some1 isWordChar), .literal ".", .oneOf ["save", "delete"], .literal "(",
    .textEnd]

/-- The pattern stands at the beginning of the text. -/
def begins (p : Pattern) (s : String) : Bool :=
  (p.opens? s).isSome

/-- Piece 1 of the first match in a text. -/
def found? (p : Pattern) (s : String) : Option String :=
  let text := s.toList.toArray
  (p.findFrom? text 0).map fun m => m.group text 1

/-! ## Whose tag it is -/

/-- The library that a tag belongs to. -/
inductive Origin where
  | react | redux | mobx | django | generic
  deriving Repr, DecidableEq

/-- The tag that reads from a store. -/
def selectorTag : String := "useSelector"

/-- The tag dispatches an action. -/
def isDispatch (tag : String) : Bool :=
  Text.startsWith tag "dispatch("

/-- The library that a tag belongs to in a file. -/
def originOf (ctx : Context) (tag : String) : Origin :=
  if ctx.analysis.language == "python" then
    if modelCall.occurs tag && (ctx.django || Text.holds tag ".objects.") then .django else .generic
  else if ctx.mobx && begins mobxCall tag then .mobx
  else if ctx.redux && (isDispatch tag || tag == selectorTag) then .redux
  else if ctx.react && (reactWords.any (Text.holds tag) || begins setterCall tag) then .react
  else .generic

/-! ## What a tag changes -/

/-- The state that a hook keeps, by the name of the function that calls it. -/
def hookVariable (name hook : String) : String :=
  let bare := withoutStart ["use"] name
  if hook == "useReducer" then lowerOr "state" bare
  else lowerOr "state" (withoutEnding "Hook" (withoutEnding "Component" bare))

/-- The action that a tag dispatches. -/
def dispatchedAction (tag : String) : String :=
  match found? dispatchedType tag with
  | some kind => kind
  | none =>
    match found? dispatchedCall tag with
    | some name => actionType name
    | none => "unknown"

/-- The text with its first character in lower case. -/
def lowerFirst : List Char → String
  | [] => ""
  | c :: rest => Text.lower (String.singleton c) ++ String.ofList rest

/-- The change that a React tag stands for: kind, variable and how it changes. -/
def reactChange (c : Container) (tag : String) : String × String × String :=
  match destructured.opens? tag with
  | some (m, text) =>
    (if Text.endsWith tag "useReducer" then "useReducer" else "useState", m.group text 1, "update")
  | none =>
    if Text.holds tag "setState" then ("setState", (found? stateKey tag).getD "unknown", "update")
    else if isDispatch tag then ("dispatch", dispatchedAction tag, "update")
    else if tag == selectorTag then ("useState", "selector", "read")
    else if begins setterCall tag then
      ("useState", lowerFirst (tag.toList.drop 3).dropLast, "update")
    else
      let hook := if Text.holds tag "useReducer" then "useReducer" else "useState"
      (hook, hookVariable c.bareName hook, "update")

/-- The change that a Redux tag stands for. -/
def reduxChange (tag : String) : String × String × String :=
  if tag == selectorTag then ("redux_reducer", "selector", "read")
  else ("dispatch", dispatchedAction tag, "update")

/-- How the calls of MobX change what they are applied to; all others create. -/
def mobxMutations : List (String × String) :=
  [("action", "update"), ("runInAction", "update"), ("computed", "read")]

/-- The change that a MobX tag stands for. -/
def mobxChange (c : Container) (tag : String) : String × String × String :=
  let call := String.ofList tag.toList.dropLast
  let owner := if c.isTopLevel then "store" else Text.lower (c.classNameOr c.bareName)
  ("mobx_observable", owner, (mobxMutations.lookup call).getD "create")

/-- The model that a tag changes. -/
def changedModel (c : Container) (tag : String) : String :=
  match (found? managedModel tag).or (found? savedInstance tag) with
  | none => "model"
  | some name =>
    let name := Text.lower name
    if name == "self" then Text.lower (c.classNameOr name) else name

/-- The change that a tag of a model stands for. -/
def modelChange (c : Container) (tag : String) : String × String × String :=
  let (kind, mutation) :=
    ((found? modelCall tag).bind fun method => modelChanges.lookup method).getD ("", "")
  (kind, changedModel c tag, mutation)

/-- The change that a tag of a library stands for. -/
def tagChange? (ctx : Context) (c : Container) (tag : String) : Option StateChange :=
  let make (framework : String) : String × String × String → StateChange
    | (kind, variableName, mutation) =>
      change ctx c.name (c.info.lineFor tag) kind framework variableName mutation tag
  match originOf ctx tag with
  | .react => some (make "React" (reactChange c tag))
  | .redux => some (make (if ctx.toolkit then "Redux Toolkit" else "Redux") (reduxChange tag))
  | .mobx => some (make "MobX" (mobxChange c tag))
  | .django => some (make "Django" (modelChange c tag))
  | .generic => none

end RepoSurvey.Detection.State
