import RepoSurvey.Config
import RepoSurvey.Failure
import RepoSurvey.Scan.Placing

/-!
# Breakdowns

What ends a command or a request without any answer: something that was
neither foreseen as a mistake of the caller nor kept as part of a result.
-/

namespace RepoSurvey

/-- Why there is no answer. -/
inductive Breakdown where
  /-- A survey failed. -/
  | survey (failure : Failure)
  /-- The configuration in the file of some name cannot be used. -/
  | config (fileName : String) (error : ConfigError)
  /-- A file cannot be written. -/
  | blocked (file : Scan.Blocked)
  deriving Repr

/-- The text in which a breakdown is reported. -/
def Breakdown.message : Breakdown → String
  | .survey failure => failure.message
  | .config name e => (Config.valueMessage? name e).getD (name ++ " cannot be used")
  | .blocked file => file.message

end RepoSurvey
