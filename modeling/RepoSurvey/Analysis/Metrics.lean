import RepoSurvey.Analysis.File
import RepoSurvey.Decimal.Fixed
import RepoSurvey.Text.Lines

/-!
# Measures of a text

The analysis that works for every file: how many lines and characters it has,
how many lines are not blank, and how long a line is on average.
-/

namespace RepoSurvey

/-- The mean length of a line, to two places. -/
def meanLineLength (lines : List String) : Float :=
  let total := lines.foldl (fun n line => n + line.length) 0
  Decimal.roundTo 2 (Float.ofNat total / Float.ofNat lines.length)

/-- The number of lines of a text. -/
def lineCount (content : String) : Nat :=
  content.toList.count '\n' + 1

/-- The measures of a text as its analysis. -/
def measure (content path language : String) : FileAnalysis :=
  let lines := Text.lines content
  { path := path
    language := language
    lines := some lines.length
    characters := some content.length
    nonEmptyLines := some (lines.filter fun line => !(Text.trim line).isEmpty).length
    averageLineLength := some (meanLineLength lines) }

end RepoSurvey
