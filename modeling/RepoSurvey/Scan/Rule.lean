import RepoSurvey.Scan.Glob
import RepoSurvey.Text.Blank
import RepoSurvey.Text.Cut

/-!
# Ignore rules

A rule leaves out the paths that its glob describes. A slash at the end limits
it to directories, a slash elsewhere ties it to the whole path from the root,
and without a slash every part of a path is looked at. Of several rules the
last one that matches decides, and a negated rule takes a path in again.
-/

namespace RepoSurvey.Scan

/-- A rule. -/
structure IgnoreRule where
  /-- The glob. -/
  glob : String
  /-- Only directories are meant. -/
  directoryOnly : Bool
  /-- It was written with a slash in front. -/
  anchored : Bool
  /-- What it matches is taken in again. -/
  negate : Bool
  /-- The glob has a slash. -/
  hasSlash : Bool
  deriving Repr, DecidableEq

/-- The rule that a text writes; a blank text writes none. -/
def IgnoreRule.ofText? (text : String) (negate : Bool) : Option IgnoreRule :=
  let text := Text.trim text
  if text.isEmpty then none
  else
    let directoryOnly := Text.endsWith text "/"
    let text := if directoryOnly then String.ofList text.toList.dropLast else text
    let anchored := Text.startsWith text "/"
    let text := if anchored then String.ofList (text.toList.drop 1) else text
    some {
      glob := text
      directoryOnly := directoryOnly
      anchored := anchored
      negate := negate
      hasSlash := text.toList.contains '/' }

/-- The rule matches a path. -/
def IgnoreRule.applies (r : IgnoreRule) (path : String) (isDirectory : Bool) : Bool :=
  if r.glob.isEmpty || (r.directoryOnly && !isDirectory) then false
  else if r.anchored || r.hasSlash then
    matchesGlob r.glob path || (r.directoryOnly && Text.startsWith path (r.glob ++ "/"))
  else (Text.split '/' path).any fun part => matchesGlob r.glob part

/-- The path is left out: the last rule that matches it is not negated. -/
def isIgnored (rules : List IgnoreRule) (path : String) (isDirectory : Bool) : Bool :=
  rules.foldl (fun ignored r => if r.applies path isDirectory then !r.negate else ignored) false

/-- The rule on a line of an ignore file; blank lines and comments have none. -/
def IgnoreRule.ofLine? (line : String) : Option IgnoreRule :=
  let line := Text.trim line
  if Text.startsWith line "#" then none
  else if Text.startsWith line "!" then IgnoreRule.ofText? (String.ofList (line.toList.drop 1)) true
  else IgnoreRule.ofText? line false

end RepoSurvey.Scan
