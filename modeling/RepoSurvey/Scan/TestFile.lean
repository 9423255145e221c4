import RepoSurvey.Text.Blank
import RepoSurvey.Text.Cut
import RepoSurvey.Text.Letter
import RepoSurvey.Text.Loose

/-!
# Test files

A path is taken for a test, a mock, a fixture, a coverage report, a story or a
benchmark by the shape of its name or of one of its directories. Documents are
never taken for tests.
-/

namespace RepoSurvey.Scan

open Text (Pattern)

/-- A point. -/
def dot : Pattern :=
  .one (· == '.')

/-- A slash. -/
def slash : Pattern :=
  .one (· == '/')

/-- The end of a part of a path. -/
def partEnd : Pattern :=
  .alt slash .textEnd

/-- A part of a path with one of the names. -/
def partNamed (names : List String) : Pattern :=
  .sequence [slash, .looseOneOf names, partEnd]

/-- One of the extensions at the end of a path. -/
def extensionAmong (names : List String) : Pattern :=
  .sequence [dot, .looseOneOf names, .textEnd]

/-- The words with nothing, an underscore or a hyphen between them. -/
def linked (first second : String) : List String :=
  [first ++ second, first ++ "_" ++ second, first ++ "-" ++ second]

/-- An underscore, a hyphen or a point. -/
def joint : Pattern :=
  .one (Pattern.among "_-.")

/-- The shapes of documents. -/
def documentShape : Pattern :=
  extensionAmong ["md", "txt", "rst", "adoc", "org", "tex", "markdown", "text", "asciidoc",
    "textile",
    "rdoc", "pod", "man", "info", "readme", "license", "changelog"]

/-- The shapes of test files. -/
def testShapes : List Pattern := [
  .sequence [dot, .looseOneOf ["test", "spec", "tests", "specs"],
    extensionAmong ["js", "jsx", "ts", "tsx", "mjs", "cjs", "vue", "svelte"]],
  partNamed ["test", "tests", "spec", "specs", "__test__", "__tests__", "__spec__", "__specs__",
    "e2e", "integration", "unit", "functional", "acceptance", "testing", "cypress", "playwright",
    "features"],
  .loose "/__mocks__/",
  partNamed (["mock", "mocks", "stub", "stubs", "fake", "fakes", "fixture", "fixtures"] ++
    linked "test" "data"),
  .sequence [dot, .looseOneOf ["mock", "mocks", "stub", "stubs", "fake", "fakes"], dot],
  .sequence [joint, .loose "test", extensionAmong
    ["py", "go", "rb", "java", "cs", "rs", "php", "swift", "kt", "c", "cpp", "cc", "cxx"]],
  .sequence [joint, .loose "spec", extensionAmong ["py", "rb", "php", "swift"]],
  .sequence [.loose "/test_", .many (· != '/'), .loose ".py", .textEnd],
  .seq (.looseOneOf ["test", "tests", "spec", "specs"])
    (extensionAmong ["java", "cs", "php", "swift", "kt"]),
  .seq (.looseOneOf ["jest", "vitest", "karma", "protractor", "cypress", "playwright", "mocha",
    "jasmine", "qunit"]) (.loose ".config."),
  .sequence [dot, .looseOneOf ["testrc", "specrc"], .optional (.seq dot (.many Pattern.inLine)),
    .textEnd],
  .seq (.looseOneOf ["/test", "/conftest"]) (extensionAmong ["py", "js", "ts"]),
  partNamed (["coverage", ".nyc_output"] ++ linked "test" "result" ++ linked "test" "results" ++
    linked "test" "report" ++ linked "test" "reports" ++ ["htmlcov"] ++ linked "lcov" "report"),
  extensionAmong ["gcov", "lcov", "coverage"],
  extensionAmong ["snap", "snaps", "snapshot", "snapshots"],
  .sequence [.looseOneOf (["setup", "teardown", "global"].flatMap fun first =>
    ["test", "tests", "spec", "specs"].flatMap (linked first)), dot],
  .sequence [.looseOneOf (["setup", "helper", "utils", "bootstrap"].flatMap (linked "test")), dot],
  .sequence [dot, .looseOneOf ["story", "stories"], extensionAmong ["js", "jsx", "ts", "tsx"]],
  partNamed ["storybook", ".storybook"],
  .sequence [dot, .looseOneOf ["bench", "benchmark"], dot],
  partNamed (["benchmark", "benchmarks"] ++ linked "perf" "test" ++ linked "perf" "tests"),
  extensionAmong ["tst"]]

/-- A path with slashes only, and one in front. -/
def rootedPath (path : String) : String :=
  "/" ++ Text.trimStartSet "/" (Text.replace '\\' "/" path)

/-- The path is that of a test file. -/
def isTestFile (path : String) : Bool :=
  let rooted := rootedPath path
  !documentShape.occurs rooted && testShapes.any fun shape => shape.occurs rooted

end RepoSurvey.Scan
