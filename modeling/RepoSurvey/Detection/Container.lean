import RepoSurvey.Analysis.Finding

/-!
# Where findings are made

A finding belongs to a container: a function, a method or the top level of a
file. Detectors go through the containers of a file in this order. What a file
imports decides which frameworks are considered in it.
-/

namespace RepoSurvey.Detection

/-- A callable under the name by which findings refer to it. -/
structure Container where
  /-- The name; a method's follows that of its class. -/
  name : String
  /-- The callable. -/
  info : Callable
  /-- The class of a method, with its name. -/
  owner : Option (String × ClassDef) := none
  deriving Inhabited

/-- The name of the container for the top level of a file. -/
def topLevelName : String := "<module>"

namespace Container

/-- The part of the name after the last point. -/
def bareName (c : Container) : String :=
  Text.afterLast '.' c.name

/-- The container is a top level, or shares its name. -/
def isTopLevel (c : Container) : Bool :=
  c.name == topLevelName

/-- The class of a method. -/
def klass? (c : Container) : Option ClassDef :=
  c.owner.map (·.2)

/-- The name of the class, or `default` when there is none or it has no name. -/
def classNameOr (c : Container) (default : String) : String :=
  match c.owner with
  | some (name, _) => if name.isEmpty then default else name
  | none => default

end Container

/-- The methods of a class as containers. -/
def methodContainers (name : String) (c : ClassDef) : List Container :=
  c.methods.map fun (signature, f) =>
    { name := name ++ "." ++ signatureName signature, info := f, owner := some (name, c) }

/-- The containers of a file: its functions, the methods of its classes, and
its top level. -/
def containers (a : FileAnalysis) : List Container :=
  (a.functions.map fun (signature, f) => { name := signatureName signature, info := f }) ++
    (a.classes.flatMap fun (name, c) => methodContainers name c) ++
    (a.moduleScope.toList.map fun f => { name := topLevelName, info := f })

/-! ## Imports -/

/-- The module is the package or lies beneath it. -/
def isWithin (module package : String) : Bool :=
  let base := Text.trimEndSet "/" package
  module == package || Text.startsWith module (base ++ "/") || Text.startsWith module (base ++ ".")

/-- One of the modules lies within one of the packages. -/
def anyWithin (modules packages : List String) : Bool :=
  modules.any fun module => packages.any fun package => isWithin module package

/-- The file imports something from one of the packages. -/
def hasImport (a : FileAnalysis) (packages : List String) : Bool :=
  anyWithin a.imports.keys packages

/-- The names that the file imports from a module. -/
def importedNames (imports : Table (List String)) (module : String) : List String :=
  (imports.get? module).getD []

end RepoSurvey.Detection
