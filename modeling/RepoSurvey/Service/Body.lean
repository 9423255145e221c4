import RepoSurvey.Decimal.Binary
import RepoSurvey.Decimal.Spelled
import RepoSurvey.Json
import RepoSurvey.Table
import RepoSurvey.Text.Blank
import RepoSurvey.Text.Cut

/-!
# Bodies of requests

The fields of a body are read generously: a whole number may come as a text or
as a real number without a fraction, and a truth value as a number or a word.
A field that is not given has its default; one that cannot be read spoils the
body.
-/

namespace RepoSurvey.Service

/-! ## Single values -/

/-- A text. -/
def text? : Json → Option String
  | .str s => some s
  | _ => none

/-- The words for a truth value. -/
def truthWords : List (String × Bool) :=
  [("1", true), ("t", true), ("true", true), ("y", true), ("yes", true), ("on", true),
    ("0", false), ("f", false), ("false", false), ("n", false), ("no", false), ("off", false)]

/-- A truth value. -/
def truth? : Json → Option Bool
  | .bool b => some b
  | .int n => if n == 1 then some true else if n == 0 then some false else none
  | .real x => if x == 1.0 then some true else if x == 0.0 then some false else none
  | .str s => truthWords.lookup (String.ofList (s.toList.map Char.toLower))
  | _ => none

/-- The text without a point and zeros at its end. -/
def withoutZeroFraction (cs : List Char) : List Char :=
  let (whole, tail) := (cs.takeWhile (· != '.'), cs.dropWhile (· != '.'))
  if 2 ≤ tail.length && (tail.drop 1).all (· == '0') then whole else cs

/-- The whole number that a text spells with ASCII digits. -/
def spelledWhole? (s : String) : Option Int :=
  let cs := withoutZeroFraction (Text.trimChars s.toList)
  if cs.all fun c => c.toNat < 128 && !Text.isBlank c then Decimal.integer? 10 cs else none

/-- The integer that a real number without a fraction is equal to. -/
def integral? (x : Float) : Option Int :=
  match Decimal.exact x with
  | .finite negative m e =>
    let (num, den) := Decimal.fraction m e
    if num % den != 0 then none
    else some (if negative then -((num / den : Nat) : Int) else (num / den : Nat))
  | _ => none

/-- A whole number. -/
def whole? : Json → Option Int
  | .int n => some n
  | .real x => integral? x
  | .bool b => some (if b then 1 else 0)
  | .str s => spelledWhole? s
  | _ => none

/-- A list of texts. -/
def texts? : Json → Option (List String)
  | .arr items => items.mapM text?
  | _ => none

/-- Texts by key. -/
def textsByKey? : Json → Option (Table String)
  | .obj fields => fields.mapM fun (key, value) => (text? value).map fun s => (key, s)
  | _ => none

/-- A value that may be null. -/
def orNull {α : Type} (read : Json → Option α) : Json → Option (Option α)
  | .null => some none
  | j => (read j).map some

/-! ## Whole bodies -/

/-- A field that has a default. -/
def fieldOr {α : Type} (fields : List (String × Json)) (key : String) (default : α)
    (read : Json → Option α) : Option α :=
  match Json.field? fields key with
  | some value => read value
  | none => some default

/-- What a request for the survey of a repository says. -/
structure RepositoryBody where
  /-- The path of the repository. -/
  path : String
  /-- The extensions of source files. -/
  extensions : Option (List String)
  /-- At most so many files are taken. -/
  limit : Option Int
  /-- Test files are taken, too. -/
  includeTests : Bool

/-- The body of a request for the survey of a repository. -/
def RepositoryBody.ofJson? : Json → Option RepositoryBody
  | .obj fields => do
    let path ← (Json.field? fields "path").bind text?
    let extensions ← fieldOr fields "extensions" none (orNull texts?)
    let limit ← fieldOr fields "limit" none (orNull whole?)
    let includeTests ← fieldOr fields "include_tests" false truth?
    return { path := path, extensions := extensions, limit := limit, includeTests := includeTests }
  | _ => none

/-- What a request for the survey of sources says. -/
structure SourcesBody where
  /-- The sources by path. -/
  files : Table String
  /-- The path that stands for the repository. -/
  repository : String

/-- The body of a request for the survey of sources. -/
def SourcesBody.ofJson? : Json → Option SourcesBody
  | .obj fields => do
    let files ← fieldOr fields "files" [] textsByKey?
    let repository ← fieldOr fields "repository_path" "." text?
    return { files := files, repository := repository }
  | _ => none

end RepoSurvey.Service
