import RepoSurvey.Survey.Routing

/-!
# Many files

Files are surveyed one after another, and after each a report of progress goes
to whoever watches. A watcher may call the survey off after some number of
reports, which is noticed before the next file, and may also refuse a report,
which ends the survey at once.
-/

namespace RepoSurvey.Survey

/-- Whoever watches a survey. -/
structure Watch where
  /-- The survey is called off when so many reports have been received. -/
  cancelAfter : Option Nat := none
  /-- What becomes of the report with some number. -/
  refuse : Nat → Option Failure := fun _ => none

/-- The survey was called off by the time of so many reports. -/
def Watch.isCancelled (w : Watch) (reports : Nat) : Bool :=
  w.cancelAfter.any (· ≤ reports)

/-- Fails if the survey was called off. -/
def checkCancelled (w : Watch) : Attempt Unit := do
  if w.isCancelled (← get).reports.length then throw .cancelled

/-- Makes a report. -/
def announce (w : Watch) (report : Report) : Attempt Unit := do
  modify fun r => { r with reports := r.reports ++ [report] }
  match w.refuse (← get).reports.length with
  | some failure => throw failure
  | none => return ()

/-- Surveys a file that may not be admitted. -/
def surveyAdmitted (k : Components) (path content : String) : Act SurveyedFile :=
  match k.admitFile path with
  | .ok () => surveyFile k path content
  | .error failure =>
    return SurveyedFile.failed path ("Batch analysis failed: " ++ failure.message)

/-- Surveys files of which some are done; `describe` makes the report after each. -/
def surveyRest (k : Components) (w : Watch) (describe : Nat → String → Report) (done : Nat) :
    List (String × String) → Attempt (Table SurveyedFile)
  | [] => return []
  | (path, content) :: rest => do
    checkCancelled w
    let file ← surveyAdmitted k path content
    announce w (describe (done + 1) path)
    let others ← surveyRest k w describe (done + 1) rest
    return (path, file) :: others

/-- The plain report after a file. -/
def plainReport (total done : Nat) (path : String) : Report where
  done := done
  total := total
  text := path

/-- Surveys files in order. -/
def surveyFiles (k : Components) (w : Watch) (describe : Nat → String → Report)
    (files : Table String) : Attempt (Table SurveyedFile) := do
  openSession k
  surveyRest k w describe 0 files

end RepoSurvey.Survey
