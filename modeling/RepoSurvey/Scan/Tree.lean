import RepoSurvey.Path

/-!
# Directory trees

A tree of directories and files, as a working directory with a name of its
own. Paths lead into it part by part; two points lead back up, and nothing is
known about what lies above the working directory.
-/

namespace RepoSurvey.Scan

/-- A file or a directory. -/
inductive Entry where
  /-- A file with its bytes. -/
  | file (bytes : ByteArray)
  /-- A directory with its entries by name. -/
  | directory (entries : List (String × Entry))
  deriving Inhabited

namespace Entry

/-- The entry is a directory. -/
def isDirectory : Entry → Bool
  | .directory _ => true
  | .file _ => false

/-- The entry of a name inside a directory. -/
def child? (e : Entry) (name : String) : Option Entry :=
  match e with
  | .directory entries => entries.lookup name
  | .file _ => none

/-- The entry at the end of a list of names. -/
def descend? (e : Entry) : List String → Option Entry
  | [] => some e
  | name :: rest => (e.child? name).bind fun inner => inner.descend? rest

/-- Replaces the entry of a name, or adds it at the end. -/
def replaceIn (name : String) (new : Entry) : List (String × Entry) → List (String × Entry)
  | [] => [(name, new)]
  | (key, old) :: rest =>
    if key == name then (key, new) :: rest else (key, old) :: replaceIn name new rest

/-- Puts an entry at the end of a list of names, with the directories on the way. -/
def put (new : Entry) : List String → Entry → Entry
  | [], _ => new
  | name :: rest, e =>
    let entries := match e with
      | .directory entries => entries
      | .file _ => []
    .directory (replaceIn name (put new rest ((entries.lookup name).getD (.directory []))) entries)

/-- Adds a directory at the end of a list of names, unless there is one. -/
def addDirectory (names : List String) (e : Entry) : Entry :=
  match e.descend? names with
  | some (.directory _) => e
  | _ => put (.directory []) names e

end Entry

/-- The working directory. -/
structure Workspace where
  /-- Its absolute path. -/
  location : String
  /-- What it holds. -/
  tree : Entry
  deriving Inhabited

namespace Workspace

/-- A path as seen from the working directory; none for an absolute path that
does not lead into it. -/
def relative? (w : Workspace) (path : String) : Option String :=
  if !Text.startsWith path "/" then some path
  else if Path.normal path == w.location then some "."
  else if Text.startsWith (Path.normal path) (w.location ++ "/") then
    some (String.ofList ((Path.normal path).toList.drop (w.location.length + 1)))
  else none

/-- The parts of a path below the working directory, with two points taken
back lexically; none when the path leads out of it. -/
def places? (w : Workspace) (path : String) : Option (List String) :=
  (w.relative? path).bind fun relative =>
    let above := (Path.parts relative).foldl (Path.enter false) []
    if above.contains ".." then none else some above.reverse

/-- The entry at a path. -/
def entry? (w : Workspace) (path : String) : Option Entry :=
  (w.places? path).bind w.tree.descend?

/-- Goes part by part through existing directories; `above` holds the entries
passed, innermost first. -/
def visit (above : List Entry) (here : Entry) : List String → Option Entry
  | [] => some here
  | ".." :: rest =>
    match above, here with
    | outer :: more, .directory _ => visit more outer rest
    | _, _ => none
  | name :: rest => (here.child? name).bind fun inner => visit (here :: above) inner rest

/-- The entry that is found by following a path step by step. -/
def found? (w : Workspace) (path : String) : Option Entry :=
  (w.relative? path).bind fun relative => visit [] w.tree (Path.parts relative)

/-- The absolute path of a place. -/
def absolute (w : Workspace) (places : List String) : String :=
  Text.join "/" (w.location :: places)

end Workspace

end RepoSurvey.Scan
