import RepoSurvey.Survey.Session

/-!
# From a file to its analysis

The language of a file decides which parser reads it. When that parser fails
the structural one is tried, and when that fails too, or there is none, the
file is measured and no more. So there is always an analysis, unless the
language itself cannot be detected.
-/

namespace RepoSurvey.Survey

/-! ## Parsers -/

/-- The parser of a language, with its tier, if it has one of its own. -/
def primaryParser? (k : Components) (language : String) :
    Option (Tier × (String → String → Except Failure FileAnalysis)) :=
  if language == "javascript" || language == "typescript" then some (.regex, k.script)
  else if language == "python" then some (.python, k.python)
  else none

/-- Languages that only the structural parser reads. -/
def treeLanguages : List String :=
  ["dart", "java", "cpp", "c"]

/-- An analysis as it comes from a parser: with the tier, and whether another failed before. -/
structure Routed where
  /-- The analysis. -/
  analysis : FileAnalysis
  /-- The parser that made it. -/
  tier : Tier
  /-- A better parser failed before. -/
  usedFallback : Bool

/-- Measures alone. -/
def measured (path content language : String) (usedFallback : Bool) : Routed where
  analysis := measure content path language
  tier := .basic
  usedFallback := usedFallback

/-- The text of a parser's failure on a file. -/
def failureText (tier : Tier) (path : String) (tail : String) : String :=
  tier.name ++ " parser failed for " ++ path ++ tail

/-- Notes the failure of a parser. -/
def noteFailure (tier : Tier) (path tail : String) : Act Unit :=
  note .warning coordinatorPart (failureText tier path tail)

/-- What is left when the parser of a language has failed. -/
def afterFailure (k : Components) (path content language : String) : Act Routed := do
  if ← hasParser k language then
    match k.structural language content path with
    | .ok a => return { analysis := a, tier := .structural, usedFallback := true }
    | .error failure => noteFailure .structural path (": " ++ failure.message)
  return measured path content language true

/-- The analysis of a file that only the structural parser reads. -/
def readTree (k : Components) (path content language : String) : Act Routed := do
  if ← hasParser k language then
    match k.structural language content path with
    | .ok a => return { analysis := a, tier := .structural, usedFallback := false }
    | .error failure =>
      noteFailure .structural path (", falling back: " ++ failure.message)
      return measured path content language true
  return measured path content language false

/-- The analysis of a file in a language. -/
def route (k : Components) (path content language : String) : Act Routed :=
  match primaryParser? k language with
  | some (tier, parse) =>
    match parse content path with
    | .ok a => return { analysis := a, tier := tier, usedFallback := false }
    | .error failure => do
      noteFailure tier path (", falling back: " ++ failure.message)
      afterFailure k path content language
  | none =>
    if treeLanguages.contains language then readTree k path content language
    else return measured path content language false

/-! ## Files -/

/-- The analysis with the size of the file, unless its lines are counted already. -/
def withSize (content : String) (a : FileAnalysis) : FileAnalysis :=
  match a.lines with
  | some _ => a
  | none => { a with lines := some (lineCount content), characters := some content.length }

/-- Surveys a file. -/
def surveyFile (k : Components) (path content : String) : Act SurveyedFile := do
  openSession k
  match k.detectLanguage path content with
  | .error failure =>
    note .error coordinatorPart ("Analysis failed for " ++ path ++ ": " ++ failure.message)
    return SurveyedFile.failed path ("Analysis failed: " ++ failure.message)
  | .ok language =>
    let routed ← route k path content language
    return {
      analysis := withSize content routed.analysis
      tier := routed.tier
      language := language
      usedFallback := routed.usedFallback }

end RepoSurvey.Survey
