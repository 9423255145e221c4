import RepoSurvey.Analysis.File
import RepoSurvey.Overview.Specifier

/-!
# Import graphs

A file depends on what it imports: on a file of the repository where a
relative specifier leads to one, and otherwise on the specifier itself. A file
never depends on itself, and a file without dependencies is not part of the
graph.
-/

namespace RepoSurvey.Overview

/-- The dependencies of files, each list in increasing order without repetition. -/
abbrev ImportGraph := Table (List String)

/-- What a specifier in a file stands for. -/
def dependencyOf (known : List String) (importer specifier : String) : String :=
  if Text.startsWith specifier "." then (resolve? importer specifier known).getD specifier
  else specifier

/-- A list in increasing order, each member once. -/
def increasing (labels : List String) : List String :=
  (distinct labels).mergeSort fun a b => decide (a ≤ b)

/-- The dependencies of a file that has these imports. -/
def dependenciesOf (known : List String) (importer : String) (specifiers : List String) :
    List String :=
  let targets := (specifiers.filter fun s => !s.isEmpty).map (dependencyOf known importer)
  increasing (targets.filter fun target => target != importer)

/-- The import graph of a corpus. -/
def importGraph (corpus : Corpus) : ImportGraph :=
  (corpus.map fun (path, a) => (path, dependenciesOf corpus.keys path a.imports.keys)).filter
    fun (_, dependencies) => !dependencies.isEmpty

end RepoSurvey.Overview
