import RepoSurvey.Scan.Tree
import RepoSurvey.Text.Quoted

/-!
# Where a file can be written

A file can be written where its directory is and no other directory stands in
its place. A log file may also ask for its directory to be made, with all that
lie on the way, as far as no file is in the way.
-/

namespace RepoSurvey.Scan

/-- What stands in the way of a file. -/
inductive Obstacle where
  /-- A directory on the way is missing. -/
  | missing
  /-- A directory that is to be made is a file. -/
  | standsAsFile
  /-- A file stands on the way. -/
  | passesFile
  /-- A directory stands in the place of the file. -/
  | isDirectory
  deriving Repr, DecidableEq

/-- The text in which an obstacle at a path is reported. -/
def Obstacle.message (o : Obstacle) (path : String) : String :=
  (match o with
    | .missing => "[Errno 2] No such file or directory: "
    | .standsAsFile => "[Errno 17] File exists: "
    | .passesFile => "[Errno 20] Not a directory: "
    | .isDirectory => "[Errno 21] Is a directory: ") ++ Text.quotedText path

/-- A file that cannot be written: what stands in the way, and the path it is reported with. -/
structure Blocked where
  /-- What stands in the way. -/
  obstacle : Obstacle
  /-- The path that the report names. -/
  path : String
  deriving Repr, DecidableEq

/-- The text of a file that cannot be written. -/
def Blocked.message (b : Blocked) : String :=
  b.obstacle.message b.path

/-- The beginnings of a list of parts that are not empty, shortest first. -/
def beginnings (parts : List String) : List (List String) :=
  (List.range parts.length).map fun n => parts.take (n + 1)

namespace Workspace

/-- The obstacle at a beginning of the way to a file: nothing there, or a file. -/
def obstacleAt (found : Option Entry) : Option Obstacle :=
  match found with
  | none => some .missing
  | some (.file _) => some .passesFile
  | some (.directory _) => none

/-- What stands in the way of writing the file at a path. Of a path that leads
out of the working directory nothing is known. -/
def blocked? (w : Workspace) (path : String) : Option Blocked := do
  let relative ← w.relative? path
  let _ ← w.places? path
  let obstacle ← match w.found? path with
    | some (.directory _) => some Obstacle.isDirectory
    | some (.file _) => none
    | none => (beginnings (Path.parts relative).dropLast).findSome? fun way =>
      obstacleAt (visit [] w.tree way)
  return ⟨obstacle, Path.tidy path⟩

/-- The entry at the end of a list of parts, two points taken back lexically. -/
def lexical? (w : Workspace) (parts : List String) : Option Entry :=
  w.tree.descend? (parts.foldl (Path.enter false) []).reverse

/-- What stands in the way of making the directory with the given parts. -/
def directoryObstacle? (w : Workspace) (parts : List String) : Option Obstacle :=
  (beginnings parts).findSome? fun way =>
    match w.lexical? way with
    | some (.file _) => some (if way.length == parts.length then .standsAsFile else .passesFile)
    | _ => none

/-- Makes sure that there is a file at a path, with the directories on the way. -/
def prepare (w : Workspace) (path : String) : Except Blocked Workspace :=
  match w.directoryObstacle? (Path.parts path).dropLast with
  | some o => .error ⟨o, Path.parent path⟩
  | none =>
    match w.places? path with
    | none => .ok w
    | some places =>
      match w.tree.descend? places with
      | some (.directory _) => .error ⟨.isDirectory, w.absolute places⟩
      | some (.file _) => .ok w
      | none => .ok { w with tree := Entry.put (.file .empty) places w.tree }

/-- A path as it is seen from the working directory: relative as long as it
does not lead out of it. -/
def seen (w : Workspace) (path : String) : String :=
  match w.places? path with
  | some places => if places.isEmpty then "." else Text.join "/" places
  | none => Path.normal (Path.join w.location path)

end Workspace

end RepoSurvey.Scan
