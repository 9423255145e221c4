import RepoSurvey.Path
import RepoSurvey.Text.Letter

/-!
# Relative specifiers

A specifier that begins with a point names a file by its place next to the
importing file. Two notations are in use: a relative path, and dots followed
by a dotted module, where one dot is the directory itself and every further
dot leads one directory up. Both are turned into a path in normal form, which
is completed by the suffixes that a file may have, in a fixed order. What lies
above the repository is not looked for.
-/

namespace RepoSurvey.Overview

/-! ## Dotted modules -/

/-- The text is empty, or a dotted module: a letter or an underscore, and then
word characters and points. -/
def isDottedModule : List Char → Bool
  | [] => true
  | c :: rest => (c.isAlpha || c == '_') && rest.all fun d => Text.isWordChar d || d == '.'

/-- Without a line feed at the very end. -/
def withoutFinalBreak (cs : List Char) : List Char :=
  if cs.getLast? == some '\n' then cs.dropLast else cs

/-- The way up that a number of dots stands for. -/
def climb (dots : Nat) : String :=
  if dots == 1 then "./" else String.join (List.replicate (dots - 1) "../")

/-- The path that a dotted specifier stands for. -/
def pathOfDotted? (specifier : String) : Option String :=
  let cs := specifier.toList
  let dots := (cs.takeWhile (· == '.')).length
  let module := withoutFinalBreak (cs.drop dots)
  if dots == 0 || !isDottedModule module then none
  else some (climb dots ++ String.ofList (Text.replaceChar '.' ['/'] module))

/-! ## Candidates -/

/-- What may follow the path of a module, in order. -/
def candidateSuffixes : List String :=
  ["", ".js", ".ts", ".jsx", ".tsx", ".py", "/index.js", "/index.ts", "/index.jsx", "/index.tsx",
    "/__init__.py"]

/-- The files that stand for the repository's root directory, in order. -/
def rootCandidates : List String :=
  candidateSuffixes.filterMap fun suffix =>
    (Text.stripStart? ['/'] suffix.toList).map String.ofList

/-- The path, in normal form, that a relative specifier leads to from a file. -/
def targetPath (importer specifier : String) : String :=
  let path := (pathOfDotted? specifier).getD specifier
  Path.normal (Path.join (Path.directory importer) path)

/-- The paths that a target may have, in order; none above the repository. -/
def candidates (target : String) : List String :=
  if target == "." then rootCandidates
  else if Text.startsWith target "../" then []
  else candidateSuffixes.map (target ++ ·)

/-- The known file that a relative specifier names. -/
def resolve? (importer specifier : String) (known : List String) : Option String :=
  (candidates (targetPath importer specifier)).find? known.contains

end RepoSurvey.Overview
