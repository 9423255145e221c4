import RepoSurvey.Detection.Container
import RepoSurvey.Text.Pattern

/-!
# Profiles of frameworks

A framework is known by signs. Each sign looks at one part of an analysis and
has a weight; it is looked for only in files of its languages, and a file
whose language is not known is never ruled out. Some signs count only under a
condition.
-/

namespace RepoSurvey.Detection.Framework

open Text (Pattern)

/-- The part of an analysis that a sign looks at. -/
inductive Target where
  | fileName | importedModule | functionCall | className | decorator | content
  deriving Repr, DecidableEq

/-- The name of a part of an analysis. -/
def Target.name : Target → String
  | .fileName => "file_name"
  | .importedModule => "import"
  | .functionCall => "function_call"
  | .className => "class_name"
  | .decorator => "decorator"
  | .content => "content"

/-- What a sign needs besides its pattern. -/
inductive Condition where
  | jsx | reactNativeImport | reactBase | modelBase | anyBase | expoDependency | flutterDependency
  | routerImport
  deriving Repr, DecidableEq

/-- The name of a condition. -/
def Condition.name : Condition → String
  | .jsx => "has_jsx"
  | .reactNativeImport => "has_react_native_import"
  | .reactBase => "extends_react"
  | .modelBase => "django_models"
  | .anyBase => "extends"
  | .expoDependency => "has_expo_dependency"
  | .flutterDependency => "has_flutter_dependency"
  | .routerImport => "router_import"

/-- A sign of a framework. -/
structure Sign where
  /-- Its identifier. -/
  id : String
  /-- What it is, in words. -/
  description : String
  /-- What it counts. -/
  weight : Nat
  /-- The part of an analysis it looks at. -/
  target : Target
  /-- What it looks for. -/
  pattern : Pattern
  /-- The languages of the files it is looked for in; none stand for all. -/
  languages : List String := []
  /-- What it needs besides its pattern. -/
  condition : Option Condition := none
  /-- The hook whose import or use counts as a call. -/
  hook : Option String := none

/-- What is known about a framework. -/
structure Profile where
  /-- The name of the framework. -/
  name : String
  /-- The least confidence with which it is reported, in hundredths. -/
  threshold : Nat
  /-- The languages it is written for. -/
  languages : List String
  /-- Its signs. -/
  signs : List Sign

/-! ## Signs in a file -/

/-- JavaScript and TypeScript, in which JSX may be written. -/
def jsLanguages : List String :=
  ["javascript", "typescript"]

/-- The hook of a sign is imported, or occurs among the tags of state. -/
def Sign.usesHook (s : Sign) (a : FileAnalysis) : Bool :=
  s.hook.any fun hook =>
    (importedNames a.imports "react").contains hook ||
      a.functions.any fun (_, f) => f.stateTags.any s.pattern.occurs

/-- A component whose name the sign looks for. -/
def Sign.namesComponent (s : Sign) (a : FileAnalysis) : Bool :=
  s.condition == some .jsx && jsLanguages.contains a.language &&
    a.functions.any fun (signature, f) =>
      f.isComponent && s.pattern.occurs (signatureName signature)

/-- The sign is found among the functions of a file. -/
def Sign.inCalls (s : Sign) (a : FileAnalysis) : Bool :=
  if s.condition == some .reactNativeImport && !hasImport a ["react-native"] then false
  else s.usesHook a || a.functions.any (fun (signature, _) => s.pattern.occurs signature) ||
    s.namesComponent a

/-- The condition lets a sign look at base classes too. -/
def Sign.looksAtBases (s : Sign) : Bool :=
  s.condition == some .anyBase || s.condition == some .reactBase || s.condition == some .modelBase

/-- The sign is found among the classes of a file. -/
def Sign.inClasses (s : Sign) (a : FileAnalysis) : Bool :=
  a.classes.any fun (name, c) =>
    s.pattern.occurs name || (s.looksAtBases && c.bases.any s.pattern.occurs)

/-- The sign is found among decorators. -/
def Sign.amongDecorators (s : Sign) (decorators : List Decorator) : Bool :=
  decorators.any fun d => s.pattern.occurs d.name

/-- The sign is found among the decorators of a file. -/
def Sign.inDecorators (s : Sign) (a : FileAnalysis) : Bool :=
  a.classes.any (fun (_, c) =>
    s.amongDecorators c.decorators || c.methods.any fun (_, f) => s.amongDecorators f.decorators) ||
    a.functions.any fun (_, f) => s.amongDecorators f.decorators

/-- The sign is looked for in files of a language. -/
def Sign.admits (s : Sign) (language : String) : Bool :=
  s.languages.isEmpty || language.isEmpty || s.languages.contains language

/-- The sign is found in a file. The text of a file is not kept, so for signs
of the content its language decides. -/
def Sign.isIn (s : Sign) (path : String) (a : FileAnalysis) : Bool :=
  s.admits a.language &&
    match s.target with
    | .fileName => s.pattern.occurs path
    | .importedModule => a.imports.keys.any s.pattern.occurs
    | .functionCall => s.inCalls a
    | .className => s.inClasses a
    | .decorator => s.inDecorators a
    | .content => jsLanguages.contains a.language

end RepoSurvey.Detection.Framework
