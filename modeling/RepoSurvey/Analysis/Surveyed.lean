import RepoSurvey.Analysis.Render

/-!
# Surveyed files

An analysis together with how it came about: the parser that made it, the
language that was detected, and whether a better parser had failed before.
-/

namespace RepoSurvey

/-- The parser that made an analysis. -/
inductive Tier where
  /-- The parser of JavaScript and TypeScript. -/
  | regex
  /-- The parser of Python. -/
  | python
  /-- The parser that reads syntax trees. -/
  | structural
  /-- Measures alone. -/
  | basic
  /-- No parser: the analysis failed. -/
  | failed
  deriving Repr, DecidableEq, Inhabited

/-- The name of a tier. -/
def Tier.name : Tier → String
  | .regex => "regex"
  | .python => "python"
  | .structural => "tree-sitter"
  | .basic => "basic"
  | .failed => "error"

/-- An analysis with how it came about. -/
structure SurveyedFile where
  /-- The analysis. -/
  analysis : FileAnalysis
  /-- The parser that made it. -/
  tier : Tier
  /-- The language of the file. -/
  language : String
  /-- A better parser failed before. -/
  usedFallback : Bool := false
  deriving Inhabited

/-- A file whose analysis failed. -/
def SurveyedFile.failed (path reason : String) : SurveyedFile where
  analysis := { path := path, language := unknownLanguage, error := some reason }
  tier := .failed
  language := unknownLanguage

/-- A surveyed file as JSON. -/
def SurveyedFile.toJson (f : SurveyedFile) : Json :=
  .obj [
    ("analysis", f.analysis.toJson),
    ("parser", .str f.tier.name),
    ("detected_language", .str f.language),
    ("used_fallback", .bool f.usedFallback)]

/-- The analyses of surveyed files. -/
def corpusOf (files : Table SurveyedFile) : Corpus :=
  files.mapValues fun f => f.analysis

end RepoSurvey
