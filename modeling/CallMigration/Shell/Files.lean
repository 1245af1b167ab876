import CallMigration.Ordering
import CallMigration.Text.Trim

/-!
# Files of a script

The files that a script can see, by their paths, and how a program that it runs ends.
-/

namespace CallMigration.Shell

/-- Texts by the paths of their files. -/
abbrev Files := List (String × String)

namespace Files

/-- The device that swallows what is written to it and holds nothing. -/
def nullDevice : String := "/dev/null"

/-- The text of a file. -/
def read? (files : Files) (path : String) : Option String :=
  if path = nullDevice then some "" else files.lookup path

/-- Whether a path names a directory: the root, the working directory, or one that holds a file. -/
def hasDirectory (files : Files) (path : String) : Bool :=
  path == "/" || path == "." || path == ".."
    || ((nullDevice, "") :: files).any fun (file, _) =>
        (path ++ (if path.toList.getLast? = some '/' then "" else "/")).toList.isPrefixOf file.toList

/-- The files with a text written to one, after its old text or in place of it. -/
def write (files : Files) (path text : String) (append : Bool) : Files :=
  if path = nullDevice then files
  else
    let old := if append then (files.read? path).getD "" else ""
    (path, old ++ text) :: files.filter (·.1 != path)

/-- The names of the files in a directory, in increasing order. -/
def namesIn (files : Files) (directory : String) : List String :=
  let above := Text.splitOn '/' directory.toList |>.filter (· ≠ [])
  let names := files.filterMap fun (file, _) =>
    let parts := Text.splitOn '/' file.toList |>.filter (· ≠ [])
    if above.isPrefixOf parts then (parts.drop above.length).head?.map String.ofList else none
  inOrder (fun a b => decide (a ≤ b)) names.eraseDups

end Files

/-- How a program ends: its status, which is zero for success, what it has written and how long it
took in milliseconds. -/
structure Ending where
  status : Nat
  output : String := ""
  elapsed : Nat := 0
deriving DecidableEq, Inhabited

namespace Ending

/-- Success without output. -/
def success : Ending := ⟨0, "", 0⟩

/-- Success for true and failure for false. -/
def ofBool (b : Bool) : Ending := if b then success else ⟨1, "", 0⟩

end Ending

/-- The lines of a text; a line feed at its end does not begin another one. -/
def linesOf (text : String) : List (List Char) :=
  match Text.splitOn '\n' text.toList with
  | [[]] => []
  | lines => if lines.getLast? = some [] then lines.dropLast else lines

/-- The text of lines, each with a line feed after it. -/
def unlines (lines : List (List Char)) : String :=
  String.ofList (lines.flatMap (· ++ ['\n']))

end CallMigration.Shell
