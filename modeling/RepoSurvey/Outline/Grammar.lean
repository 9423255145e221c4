import RepoSurvey.Table
import RepoSurvey.Text.Casing
import RepoSurvey.Text.Cut

/-!
# Which nodes matter

For each language with a grammar: the kinds of nodes that define functions and
classes, that import something, and that name base classes.
-/

namespace RepoSurvey.Outline

/-- The kinds of nodes that matter in a language. -/
structure Grammar where
  /-- Nodes that define a function. -/
  functions : List String
  /-- Nodes that define a class. -/
  classes : List String
  /-- Nodes that import something. -/
  imports : List String
  /-- A parameter's name comes after its type. -/
  typedParameters : Bool := false
  /-- Nodes that name base classes. -/
  bases : List String := []
  deriving Repr

/-- The grammars by language. -/
def grammars : Table Grammar := [
  ("python", {
    functions := ["function_definition"]
    classes := ["class_definition"]
    imports := ["import_statement", "import_from_statement"]
    bases := ["argument_list"] }),
  ("javascript", {
    functions := ["function_declaration", "generator_function_declaration", "method_definition"]
    classes := ["class_declaration"]
    imports := ["import_statement"]
    bases := ["class_heritage"] }),
  ("typescript", {
    functions := ["function_declaration", "generator_function_declaration", "method_definition"]
    classes := ["class_declaration", "abstract_class_declaration"]
    imports := ["import_statement"]
    bases := ["class_heritage"] }),
  ("java", {
    functions := ["method_declaration", "constructor_declaration"]
    classes := ["class_declaration", "interface_declaration", "enum_declaration"]
    imports := ["import_declaration"]
    typedParameters := true
    bases := ["superclass", "super_interfaces"] }),
  ("dart", {
    functions := ["function_signature", "method_signature"]
    classes := ["class_definition"]
    imports := ["import_or_export", "library_import"]
    typedParameters := true
    bases := ["superclass", "interfaces", "mixins"] }),
  ("c", {
    functions := ["function_definition"]
    classes := ["struct_specifier"]
    imports := ["preproc_include"]
    typedParameters := true }),
  ("cpp", {
    functions := ["function_definition"]
    classes := ["class_specifier", "struct_specifier"]
    imports := ["preproc_include"]
    typedParameters := true
    bases := ["base_class_clause"] })]

/-- The languages with a grammar. -/
def languages : List String :=
  grammars.keys

/-- The languages of suffixes; of several suffixes that fit the first counts. -/
def languagesBySuffix : List (String × String) := [
  (".py", "python"), (".js", "javascript"), (".jsx", "javascript"), (".ts", "typescript"),
  (".tsx", "typescript"), (".java", "java"), (".dart", "dart"), (".c", "c"), (".h", "c"),
  (".cpp", "cpp"), (".cc", "cpp"), (".hpp", "cpp")]

/-- The language whose grammar a path asks for. -/
def languageOfPath? (path : String) : Option String :=
  (languagesBySuffix.find? fun (suffix, _) => Text.endsWith (Text.lower path) suffix).map (·.2)

end RepoSurvey.Outline
