import RepoSurvey.Decimal.Spelled
import RepoSurvey.Text.Quoted

/-!
# Failures

What can go wrong while a repository is analysed, by cause, and the text in
which each cause is reported.
-/

namespace RepoSurvey

/-- Why something could not be done. -/
inductive Failure where
  /-- The analysis was called off. -/
  | cancelled
  /-- A component gave up with a text of its own. -/
  | fault (text : String)
  /-- A parser of some tier cannot read a source. -/
  | unparsable (tier text : String)
  /-- Part of a source, or a value of a route hint, cannot be written out. -/
  | unwritable (text : String)
  /-- There is nothing at the path of a repository. -/
  | missing (path : String)
  /-- The path of a repository leads to a file. -/
  | notADirectory (path : String)
  /-- A directory stands where a file is to be read; its absolute path. -/
  | isADirectory (path : String)
  /-- A report was asked for that does not exist. -/
  | unknownReport (kind : String)
  /-- The line of a route hint has digits that make no number. -/
  | badLine (digits : String)
  /-- The line of a route hint has too many digits. -/
  | longLine (digits : Nat)
  /-- The greatest possible score of a framework is zero. -/
  | noScale
  deriving Repr, DecidableEq

/-- The text of a failure. -/
def Failure.message : Failure → String
  | .cancelled => "Analysis was cancelled"
  | .fault text => text
  | .unparsable _ text => text
  | .unwritable text => text
  | .missing path => "Repository path not found: " ++ path
  | .notADirectory path => "Repository path is not a directory: " ++ path
  | .isADirectory path => "[Errno 21] Is a directory: " ++ Text.quotedText path
  | .unknownReport kind => "Unknown report kind: " ++ kind
  | .badLine digits => "invalid literal for int() with base 10: " ++ Text.quotedText digits
  | .longLine digits => Decimal.digitsMessage (": value has " ++ toString digits ++ " digits")
  | .noScale => "float division by zero"

end RepoSurvey
