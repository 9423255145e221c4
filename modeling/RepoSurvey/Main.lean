import RepoSurvey.Command

/-!
# The program

Reads the working directory, carries out the command line, and puts the
outcome where it belongs: what is printed on the standard output, the rest on
the error output and in files.
-/

namespace RepoSurvey.Program

/-- The greatest depth to which directories are read. -/
def greatestDepth : Nat := 200

/-- Reads a directory. Links to directories are not followed. -/
def readEntries (entries : Array IO.FS.DirEntry) : Nat → IO Scan.Entry
  | 0 => return .directory []
  | depth + 1 => do
    let mut found : List (String × Scan.Entry) := []
    for entry in entries do
      if ← entry.path.isDir then
        let isLink := (← entry.path.symlinkMetadata).type matches .symlink
        let inner ← if isLink then pure (Scan.Entry.directory [])
          else readEntries (← entry.path.readDir) depth
        found := (entry.fileName, inner) :: found
      else if ← entry.path.pathExists then
        found := (entry.fileName, .file (← IO.FS.readBinFile entry.path)) :: found
    return .directory found.reverse

/-- Reads the working directory. -/
def readWorkspace : IO Scan.Workspace := do
  let place ← IO.currentDir
  return { location := place.toString, tree := ← readEntries (← place.readDir) greatestDepth }

/-- Writes a file, with its directory if that is missing. -/
def writeFile (path text : String) : IO Unit := do
  IO.FS.createDirAll (Path.parent path)
  IO.FS.writeFile path text

/-- Carries out a command line; gives the status. -/
def carryOut (words : List String) : IO UInt32 := do
  match Command.run (← readWorkspace) words with
  | .error breakdown =>
    IO.eprintln breakdown.message
    return 1
  | .ok (outcome, lines) =>
    for (path, file) in outcome.files do
      writeFile path file.text
    for line in lines do
      IO.eprintln line
    IO.print outcome.printed.text
    return outcome.status.toUInt32

end RepoSurvey.Program

/-- The program. -/
def main (words : List String) : IO UInt32 :=
  RepoSurvey.Program.carryOut words
