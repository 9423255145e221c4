import RepoSurvey.Text.Blank
import RepoSurvey.Text.Cut

/-!
# Paths

A path is a text of parts between slashes. Empty parts and single points do
not count; two points lead to the directory above. `normal` writes a path with
as few parts as possible and keeps leading double points of a path that is not
rooted, so such a path lies above the place it starts from.
-/

namespace RepoSurvey.Path

/-! ## Parts -/

/-- The parts of a path that count. -/
def parts (path : String) : List String :=
  (Text.split '/' path).filter fun part => part != "" && part != "."

/-- The last part of a path, empty when it has none. -/
def fileName (path : String) : String :=
  (parts path).getLast?.getD ""

/-- What follows the last point of a name, with the point. A point at either
end of the name does not count. -/
def nameSuffix (name : String) : String :=
  let tail := Text.afterLast '.' name
  let start := name.length - tail.length
  if 1 < start && !tail.isEmpty then "." ++ tail else ""

/-- The suffix of a path's last part. -/
def suffix (path : String) : String :=
  nameSuffix (fileName path)

/-! ## The text of a path -/

/-- The text up to the last slash, without the slashes at its end unless it
consists of them. -/
def directory (path : String) : String :=
  let cs := path.toList
  let head := (cs.reverse.dropWhile (· != '/')).reverse
  if head.all (· == '/') then String.ofList head
  else String.ofList (Text.trimEndBy (· == '/') head)

/-- The extension of the text after the last slash, with its point. Points at
the beginning of that text do not count. -/
def extension (path : String) : String :=
  let name := Text.afterLast '/' path
  let bare := Text.trimStartSet "." name
  let tail := Text.afterLast '.' bare
  if tail.length < bare.length then "." ++ tail else ""

/-- The path `path` as seen from `base`. -/
def join (base path : String) : String :=
  if Text.startsWith path "/" then path
  else if base.isEmpty || Text.endsWith base "/" then base ++ path
  else base ++ "/" ++ path

/-! ## Normal form -/

/-- Goes from the directory with the parts `above`, innermost first, to `part`. -/
def enter (rooted : Bool) (above : List String) (part : String) : List String :=
  if part == "" || part == "." then above
  else if part != ".." then part :: above
  else match above with
    | [] => if rooted then [] else [".."]
    | outer :: rest => if outer == ".." then ".." :: above else rest

/-- The slashes in front of a path in normal form: two are kept, more are one. -/
def rootMark (path : String) : String :=
  if !Text.startsWith path "/" then ""
  else if Text.startsWith path "//" && !Text.startsWith path "///" then "//"
  else "/"

/-- The path in normal form; a point when nothing is left. -/
def normal (path : String) : String :=
  let mark := rootMark path
  let text := mark ++ Text.join "/" ((Text.split '/' path).foldl (enter (mark != "")) []).reverse
  if text.isEmpty then "." else text

/-- The path with the parts that count and no others; a point when there are none. -/
def tidy (path : String) : String :=
  let text := rootMark path ++ Text.join "/" (parts path)
  if text.isEmpty then "." else text

/-- The directory that a path lies in, in the same form. -/
def parent (path : String) : String :=
  let text := rootMark path ++ Text.join "/" (parts path).dropLast
  if text.isEmpty then "." else text

end RepoSurvey.Path
