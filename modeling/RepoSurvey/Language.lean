import RepoSurvey.Analysis.File
import RepoSurvey.Path
import RepoSurvey.Text.Blank
import RepoSurvey.Text.Casing
import RepoSurvey.Text.Pattern

/-!
# The language of a file

The suffix of a path tells the language of most files. Where it leaves room
for doubt, the first line may name an interpreter, and after that the content
is searched for constructs typical of some language; the language with the
highest score wins, the one listed first among equals.
-/

namespace RepoSurvey.Language

open Text (Pattern isBlank isWordChar)

/-! ## By suffix -/

/-- The languages of suffixes that leave no room for doubt. -/
def definitive : List (String × String) := [
  (".js", "javascript"), (".jsx", "javascript"), (".mjs", "javascript"), (".cjs", "javascript"),
  (".ts", "typescript"), (".tsx", "typescript"), (".mts", "typescript"), (".cts", "typescript"),
  (".py", "python"), (".pyw", "python"), (".pyi", "python"), (".dart", "dart"), (".java", "java"),
  (".rb", "ruby"), (".go", "go"), (".rs", "rust"), (".php", "php"), (".swift", "swift"),
  (".kt", "kotlin"), (".kts", "kotlin"), (".scala", "scala")]

/-- The languages of suffixes that the content may overrule. -/
def tentative : List (String × String) := [
  (".cpp", "cpp"), (".cxx", "cpp"), (".cc", "cpp"), (".hpp", "cpp"), (".c", "c"), (".h", "c"),
  (".cs", "csharp"), (".html", "html"), (".htm", "html"), (".css", "css"), (".scss", "css"),
  (".sass", "css"), (".less", "css"), (".json", "json"), (".yaml", "yaml"), (".yml", "yaml"),
  (".md", "markdown"), (".markdown", "markdown"), (".rst", "markdown")]

/-- Every suffix that has a language, in order. -/
def supportedSuffixes : List String :=
  ((definitive ++ tentative).map (·.1)).mergeSort fun a b => decide (a ≤ b)

/-! ## By the first line -/

/-- A decimal digit or a point. -/
def isVersionPart (c : Char) : Bool :=
  ('0' ≤ c && c ≤ '9') || c == '.'

/-- What names an interpreter, with its language. -/
def interpreters : List (Pattern × String) := [
  (.literal "node", "javascript"),
  (.seq (.literal "python") (.many isVersionPart), "python"),
  (.literal "ruby", "ruby"),
  (.literal "php", "php"),
  (.literal "dart", "dart")]

/-- A first line that names an interpreter as a word of its own. -/
def interpreterLine (name : Pattern) : Pattern :=
  .sequence [.textStart, .literal "#!", .many Pattern.inLine, .wordEdge, name, .wordEdge]

/-- The language of the interpreter that the first line names. -/
def byFirstLine (content : String) : Option String :=
  let line := Text.beforeFirst '\n' content
  if Text.startsWith line "#!" then
    (interpreters.find? fun (name, _) => (interpreterLine name).occurs line).map (·.2)
  else none

/-! ## By content -/

/-- Any number of blanks. -/
def blanks : Pattern :=
  .many isBlank

/-- At least one blank. -/
def blanks1 : Pattern :=
  .some1 isBlank

/-- A word. -/
def word : Pattern :=
  .some1 isWordChar

/-- The rest of a line, or part of it. -/
def anything : Pattern :=
  .many Pattern.inLine

/-- One of the given characters. -/
def oneFrom (set : String) : Pattern :=
  .one (Pattern.among set)

/-- A line that begins with the pieces, blanks aside. -/
def lineOf (pieces : List Pattern) : Pattern :=
  .sequence (.lineStart :: blanks :: pieces)

/-- A text after the beginning of a line, with blanks after it. -/
def keyword (text : String) : Pattern :=
  .seq (.literal text) blanks1

/-- Type arguments or array brackets, or neither. -/
def typeTail : Pattern :=
  .optional (.alt (.literal "[]") (.sequence [.one (· == '<'), anything, .one (· == '>')]))

/-- A class with its superclass, as far as the name of the latter. -/
def classExtending (base : String) : Pattern :=
  lineOf [keyword "class", word, blanks1, keyword "extends", .literal base]

/-- Typical constructs by language, with what each of them counts. -/
def constructs : List (String × Nat × List Pattern) := [
  ("python", 3, [
    lineOf [keyword "import", word],
    lineOf [keyword "from", word, blanks1, .literal "import"],
    lineOf [keyword "def", word, blanks, .one (· == '(')],
    lineOf [keyword "class", word, anything, .one (· == ':')],
    lineOf [keyword "if", .literal "__name__", blanks, .literal "==", blanks, oneFrom "'\"", blanks,
      .literal "__main__", blanks, oneFrom "'\"", .one (· == ':')]]),
  ("javascript", 2, [
    lineOf [keyword "import", anything, blanks1, keyword "from", oneFrom "'\"\x60"],
    lineOf [keyword "const", word, blanks, .one (· == '=')],
    lineOf [keyword "let", word, blanks, .one (· == '=')],
    lineOf [keyword "function", word, blanks, .one (· == '(')],
    .sequence [.literal "=>", blanks, .one (· == '{')],
    .seq (.literal "console.") (.oneOf ["log", "error", "warn"])]),
  ("typescript", 4, [
    lineOf [keyword "interface", word],
    lineOf [keyword "type", word, blanks, .one (· == '=')],
    .sequence [.one (· == ':'), blanks, word, typeTail, blanks, oneFrom "=;"],
    lineOf [keyword "export", keyword "type"],
    .sequence [keyword "as", word, typeTail]]),
  ("java", 3, [
    lineOf [keyword "package", .some1 fun c => isWordChar c || c == '.', .one (· == ';')],
    lineOf [keyword "import", .some1 fun c => isWordChar c || c == '.', .one (· == ';')],
    lineOf [keyword "public", keyword "class", word],
    lineOf [keyword "private", word, blanks1, word],
    .literal "System.out.println"]),
  ("cpp", 2, [
    lineOf [.literal "#include", blanks, .one (· == '<'), anything, .one (· == '>')],
    lineOf [.literal "#include", blanks, .one (· == '"'), anything, .one (· == '"')],
    lineOf [keyword "int", .literal "main", blanks, .one (· == '(')],
    lineOf [keyword "#define", word],
    .sequence [.literal "printf", blanks, .one (· == '(')]]),
  ("dart", 4, [
    lineOf [keyword "import", oneFrom "'\"", .literal "dart:"],
    lineOf [keyword "import", oneFrom "'\"", .literal "package:"],
    classExtending "StatelessWidget",
    classExtending "StatefulWidget",
    .sequence [keyword "Widget", .literal "build", blanks, .one (· == '(')]]),
  ("ruby", 2, [
    lineOf [keyword "require", oneFrom "'\"", anything, oneFrom "'\""],
    lineOf [keyword "class", word, anything, .lineEnd],
    lineOf [keyword "def", word, anything, .lineEnd],
    lineOf [keyword "module", word],
    keyword "puts"])]

/-- What the constructs of a language count in a content. -/
def score (content : String) (weight : Nat) (patterns : List Pattern) : Nat :=
  (patterns.filter fun p => p.occurs content).length * weight

/-- The least score that tells anything. -/
def leastScore : Nat := 2

/-- The language whose constructs count most. -/
def byContent (content : String) : Option String :=
  let (best, points) := constructs.foldl
    (fun (best, points) (language, weight, patterns) =>
      let found := score content weight patterns
      if points < found then (some language, found) else (best, points))
    (none, 0)
  if leastScore ≤ points then best else none

/-! ## Detection -/

/-- The language of a path and, when it is known, the content. -/
def detect (path : String) (content : Option String) : String :=
  let suffix := Text.lower (Path.suffix path)
  match definitive.lookup suffix with
  | some language => language
  | none =>
    let found := content.bind fun text => (byFirstLine text).orElse fun _ => byContent text
    found.getD ((tentative.lookup suffix).getD unknownLanguage)

/-- Languages whose files are read in depth. -/
def isDeep (language : String) : Bool :=
  ["javascript", "typescript", "python", "dart"].contains language

end RepoSurvey.Language
