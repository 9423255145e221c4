import RepoSurvey.JavaScript.Bracket
import RepoSurvey.Table

/-!
# Imports

The modules that a source imports, with the names it takes from each. Import
statements come first, then imports for their effect alone, then `require`
calls; within each of them the order of the source holds.
-/

namespace RepoSurvey.JavaScript

open Text (Pattern)

/-- A character of an import clause. -/
def isClausePart (c : Char) : Bool :=
  Text.isWordChar c || Text.isBlank c || ['$', '*', '{', '}', ','].contains c

/-- An import statement with a clause: the clause is piece 1, the module piece 2. -/
def importFrom : Pattern :=
  .sequence [.wordEdge, .literal "import", gap, .optional (.seq (.literal "type") gap),
    .capture 1 (.fewest1 isClausePart), gap, .literal "from", gap, quoted 2]

/-- An import statement without a clause: the module is piece 1. -/
def importBare : Pattern :=
  .sequence [.wordEdge, .literal "import", gap, quoted 1]

/-- One of the words that declare a variable. -/
def declarationWord : Pattern :=
  .oneOf ["const", "let", "var"]

/-- A declaration whose value is a `require` call: the target is piece 1, the module piece 2. -/
def requireCall : Pattern :=
  .sequence [.wordEdge, declarationWord, gap,
    .capture 1 (.alt (.sequence [.one (· == '{'), .many (· != '}'), .one (· == '}')]) name),
    blanks, .one (· == '='), blanks, .literal "require(", blanks, quoted 2, blanks, .one (· == ')')]

/-- The names before the braces of a clause: the default name, or the whole module under a name. -/
def defaultNames (clause : String) : List String :=
  let items := Text.split ',' (Text.beforeFirst '{' clause)
  (items.map fun item => Text.join " " (Text.words item)).filter
    fun item => !item.isEmpty

/-- The word `type` in front of an imported name. -/
def typeWord : Pattern :=
  .sequence [.textStart, .literal "type", gap]

/-- The exported names inside the braces of a clause. -/
def bracedNames (clause : String) : List String :=
  let inside := Text.trimEndSet "\x7d \n" (Text.afterFirst '{' clause)
  let items := (Text.split ',' inside).map Text.trim
  (items.filter fun item => !item.isEmpty).map fun item =>
    Text.trim (Text.beforeText " as " (typeWord.substitute (fun _ _ => "") item))

/-- The names bound by the target of a `require` declaration. -/
def requiredNames (target : String) : List String :=
  if Text.startsWith target "\x7b" then
    let parts := Text.split ',' (Text.trimSet "\x7b\x7d " target)
    (parts.filter fun part => !(Text.trim part).isEmpty).map
      fun part => Text.trim (Text.beforeFirst ':' part)
  else [target]

/-- The imports of a source, read from its code. -/
def imports (code : Array Char) : Table (List String) :=
  let clauses := (importFrom.findAll code).map fun m =>
    let clause := m.group code 1
    (m.group code 2, defaultNames clause ++ bracedNames clause)
  let bare := (importBare.findAll code).map fun m => (m.group code 1, [])
  let required := (requireCall.findAll code).map fun m =>
    (m.group code 2, requiredNames (m.group code 1))
  Table.gather (clauses ++ bare ++ required)

end RepoSurvey.JavaScript
