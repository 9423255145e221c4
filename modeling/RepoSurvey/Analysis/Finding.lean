import RepoSurvey.Analysis.File

/-!
# Findings

What the detectors report: a route that a file serves, a place where state
changes, an event that a file emits or listens to, and a framework with its
evidence. A finding names the file, the line and the container it was found
in, and carries a few details that depend on how it was found.
-/

namespace RepoSurvey

/-- An HTTP route. -/
structure Endpoint where
  /-- How the route was declared. -/
  kind : String
  /-- The framework that serves it. -/
  framework : String
  /-- The path of the file. -/
  file : String
  /-- The line of the declaration. -/
  line : Int
  /-- The HTTP verb. -/
  method : String
  /-- The route as written. -/
  route : String
  /-- The callable or class it was found in. -/
  container : Option String := none
  /-- Further details. -/
  details : Table Json := []
  deriving Inhabited

/-- A change of state. -/
structure StateChange where
  /-- The kind of state. -/
  kind : String
  /-- The library that keeps it. -/
  framework : String
  /-- The path of the file. -/
  file : String
  /-- The line of the change. -/
  line : Int
  /-- The variable, key or action that changes. -/
  variableName : String
  /-- How it changes. -/
  mutation : String
  /-- The callable or class it was found in. -/
  container : Option String := none
  /-- Further details. -/
  details : Table Json := []
  deriving Inhabited

/-- An event that is emitted or listened to. -/
structure EventRecord where
  /-- The kind of event. -/
  kind : String
  /-- The library that delivers it. -/
  framework : String
  /-- The path of the file. -/
  file : String
  /-- The line of the handler or of the call. -/
  line : Int
  /-- The name of the event. -/
  event : String
  /-- The callable or class it was found in. -/
  container : Option String := none
  /-- Further details. -/
  details : Table Json := []
  deriving Inhabited

/-- A framework that the evidence speaks for, with a confidence among the numbers `α`. -/
structure FrameworkDetection (α : Type) where
  /-- The name of the framework. -/
  name : String
  /-- How much of the possible evidence was found. -/
  confidence : α
  /-- The files with evidence, each once. -/
  evidence : List String := []
  /-- The patterns that matched, each once. -/
  patterns : List String := []

/-- The findings of the three per-file detectors. -/
structure Findings where
  /-- Routes. -/
  endpoints : List Endpoint := []
  /-- State changes. -/
  states : List StateChange := []
  /-- Events. -/
  events : List EventRecord := []
  deriving Inhabited

/-- Findings in order of file and then line; findings of one line keep their order. -/
def sortByPlace {α : Type} (file : α → String) (line : α → Int) (findings : List α) : List α :=
  findings.mergeSort fun a b =>
    decide (file a < file b) || (file a == file b && decide (line a ≤ line b))

end RepoSurvey
