import RepoSurvey.Outline.Definition

/-!
# Imports in a syntax tree

The module and the names that the text of an importing node gives. Each
language has its own form; where the form is not known, the first quoted or
bracketed piece of the text is the module.
-/

namespace RepoSurvey.Outline

open Text (Pattern isBlank isWordChar)

/-- Names from a module: the module is piece 1 and the names are piece 2. -/
def fromStatement : Pattern :=
  .sequence [.literal "from", .some1 isBlank, .capture 1 (.some1 fun c => c == '.' || isWordChar c),
    .some1 isBlank, .literal "import", .some1 isBlank, .capture 2 (.some1 fun _ => true)]

/-- The beginning of an import in Java. -/
def javaImport : Pattern :=
  .sequence [.textStart, .literal "import", .some1 isBlank,
    .optional (.seq (.literal "static") (.some1 isBlank))]

/-- A piece in quotes or angle brackets, as piece 1. -/
def quotedModule : Pattern :=
  .sequence [.one (Pattern.among "'\"<"), .capture 1 (.some1 (Pattern.otherThan "'\">")),
    .one (Pattern.among "'\">")]

/-- The imports of a file together with those that a Python statement adds. -/
def addPythonImport (text : String) (imports : Table (List String)) : Table (List String) :=
  match fromStatement.opens? text with
  | some (m, cs) =>
    let names := (Text.split ',' (Text.trimSet "() \n" (m.group cs 2))).map fun piece =>
      Text.beforeText " as " (Text.trim piece)
    imports.extend (m.group cs 1) (names.filter fun name => !name.isEmpty)
  | none =>
    let pieces := (Text.split ',' (String.ofList (text.toList.drop 6))).map Text.trim
    (pieces.filter fun piece => !piece.isEmpty).foldl
      (fun t piece => t.extend (Text.trim (Text.beforeText " as " piece)) [piece]) imports

/-- The imports of a file together with those that a node adds. -/
def addImport (language : String) (text : String) (imports : Table (List String)) :
    Table (List String) :=
  let text := Text.trim text
  if language == "python" then addPythonImport text imports
  else if language == "java" then
    let rest := javaImport.substitute (fun _ _ => "") text
    let module := Text.trim (Text.trimEndSet ";" rest)
    imports.setNew module [Text.afterLast '.' module]
  else match quotedModule.findFrom? text.toList.toArray 0 with
    | some m => imports.setNew (m.group text.toList.toArray 1) []
    | none => imports

end RepoSurvey.Outline
