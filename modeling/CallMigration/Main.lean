import CallMigration.FileTree
import CallMigration.Response

/-!
# The program

Answers a command line on the files of the system, and does what the answer says. The readers of the
program and the way to run commands are handed to it.
-/

namespace CallMigration

/-- The cause of a failed read at a path of the system. -/
def FileError.ofSystem (path : Path) (cause : IO.Error) : IO FileError := do
  match cause with
  | .noFileOrDirectory .. => return .notFound
  | .inappropriateType .. =>
      let entry : IO.FS.DirEntry := ⟨path.text, ""⟩
      return if ← entry.root.isDir then .isDirectory else .notDirectory
  | cause => return .other (toString cause)

/-- The text of a file of the system. -/
def readSystemFile (path : Path) : IO (Except FileError String) := do
  try
    let bytes ← IO.FS.readBinFile path.text
    return match String.fromUTF8? bytes with
      | some text => .ok text
      | none => .error .notText
  catch cause => return .error (← FileError.ofSystem path cause)

/-- The files below an entry of the system, by the names that lead to them. -/
partial def systemFilesBelow (entry : IO.FS.DirEntry) : IO (List (List String)) := do
  let entries ← entry.path.readDir
  let files ← entries.toList.mapM fun entry => do
    match (← entry.path.metadata).type with
    | .dir => return (← systemFilesBelow entry).map (entry.fileName :: ·)
    | .file => return [[entry.fileName]]
    | _ => return []
  return files.flatten

/-- The files of the system, with commands to run on it. -/
def systemDisk (commands : Commands IO) : Disk IO where
  isFile path := do
    let entry : IO.FS.DirEntry := ⟨path.text, ""⟩
    try return (← entry.root.metadata).type == .file
    catch _ => return false
  isDirectory path := do
    let entry : IO.FS.DirEntry := ⟨path.text, ""⟩
    entry.root.isDir
  read := readSystemFile
  filesBelow path := do
    try return .ok (inOrder FileTree.before (← systemFilesBelow ⟨path.text, ""⟩))
    catch cause => return .error (← FileError.ofSystem path cause)
  confirms v text := v.confirms commands text

/-- Writes and says what an answer holds. -/
def Response.deliver (response : Response) : IO UInt32 := do
  for (path, text) in response.writes do
    IO.FS.writeFile path.text text
  IO.print response.output
  IO.eprint response.messages
  return response.exitCode.toUInt32

/-- Does what a command line asks for. -/
def runProgram (readers : Readers) (commands : Commands IO) (arguments : List String) :
    IO UInt32 := do
  try (← (systemDisk commands).respond readers arguments).deliver
  catch cause =>
    IO.eprintln (toString cause)
    return 2

end CallMigration
