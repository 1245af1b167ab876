import CallMigration.Disk
import CallMigration.Ordering
import CallMigration.Text.Trim

/-!
# File trees

The files of a system as a value: what they hold, by the names that lead to them from the root, and
the place of the working directory among them. A path leads from the root or from the working
directory, one name after the other (`FileTree.resolve`), so that a file can be reached in many
ways.
-/

namespace CallMigration

/-- The names that lead to a file or directory from the root. -/
abbrev Location := List String

/-- What a file holds. -/
inductive Content where
  | text (text : String)
  /-- Bytes that are not UTF-8. -/
  | binary
  /-- Nothing, whatever is written to it: the file is a device. -/
  | device
deriving DecidableEq

/-- The files and directories of a system. -/
structure FileTree where
  /-- The working directory. -/
  place : Location
  files : List (Location × Content)
  /-- Directories that are there whether or not they hold files. -/
  directories : List Location
deriving DecidableEq, Inhabited

namespace FileTree

/-- What the file at a location holds, if there is one. -/
def content? (tree : FileTree) (location : Location) : Option Content :=
  tree.files.lookup location

/-- The text of the file at a location, if there is one that holds a text. -/
def text? (tree : FileTree) (location : Location) : Option String :=
  match tree.content? location with
  | some (.text text) => some text
  | _ => none

/-- Whether there is a directory at a location. -/
def hasDirectory (tree : FileTree) (location : Location) : Bool :=
  location.isPrefixOf tree.place || tree.directories.any (location.isPrefixOf ·)
    || tree.files.any fun (file, _) => location.isPrefixOf file && location != file

/-- The tree with a text at a location. A device stays as it is. -/
def write (tree : FileTree) (location : Location) (text : String) : FileTree :=
  match tree.content? location with
  | some .device => tree
  | some _ =>
      { tree with
        files := tree.files.map fun (l, c) => if l = location then (l, .text text) else (l, c) }
  | none => { tree with files := tree.files ++ [(location, .text text)] }

theorem lookup_map_replace {location other : Location} {content : Content}
    {files : List (Location × Content)} :
    (files.map fun (l, c) => if l = location then (l, content) else (l, c)).lookup other =
      if other = location then (files.lookup other).map fun _ => content
      else files.lookup other := by
  induction files with
  | nil => simp
  | cons entry files ih =>
      obtain ⟨l, c⟩ := entry
      by_cases hl : l = location <;> by_cases ho : other = l <;> grind

/-- A text for a file that is there takes the place of what it holds. -/
theorem write_of_content? {tree : FileTree} {location : Location} {content : Content}
    (h : tree.content? location = some content) (hne : content ≠ .device) (text : String) :
    tree.write location text =
      { tree with
        files := tree.files.map fun (l, c) =>
          if l = location then (l, .text text) else (l, c) } := by
  cases content with
  | device => exact absurd rfl hne
  | text | binary => rw [write, h]

/-- A text that is written is found at its location, and nothing else changes. -/
theorem content?_write {tree : FileTree} {location : Location}
    (h : tree.content? location ≠ some .device) (text : String) (other : Location) :
    (tree.write location text).content? other =
      if other = location then some (.text text) else tree.content? other := by
  cases hcontent : tree.content? location with
  | none =>
      rw [write, hcontent, content?, List.lookup_append, ← content?]
      by_cases ho : other = location
      · simp [ho, hcontent]
      · have hne : (other == location) = false := by simpa using ho
        simp [ho, List.lookup_cons, hne]
  | some content =>
      have hne : content ≠ .device := fun heq => h (heq ▸ hcontent)
      rw [write_of_content? hcontent hne, content?, lookup_map_replace]
      split
      · next heq => rw [heq, ← content?, hcontent, Option.map_some]
      · rfl

/-- What is written to a device leaves no trace. -/
theorem write_of_device {tree : FileTree} {location : Location}
    (h : tree.content? location = some .device) (text : String) :
    tree.write location text = tree := by
  rw [write, h]

/-- The longest name there can be, in bytes. -/
def maxNameSize : Nat := 255

/-- The longest path there can be, in bytes. -/
def maxPathSize : Nat := 4095

/-- Checks that there is a directory at a location. -/
def checkDirectory (tree : FileTree) (location : Location) : Except FileError Unit :=
  if tree.hasDirectory location then .ok ()
  else if (tree.content? location).isSome then .error .notDirectory
  else .error .notFound

/-- Where one name leads from a location, at which there must be a directory. -/
def follow (tree : FileTree) (location : Location) (name : String) : Except FileError Location :=
  match tree.checkDirectory location with
  | .error cause => .error cause
  | .ok () =>
      if name = "" ∨ name = "." then .ok location
      else if name = ".." then .ok location.dropLast
      else if maxNameSize < name.utf8ByteSize then .error .nameTooLong
      else .ok (location ++ [name])

/-- Where names lead from a location. -/
def followAll (tree : FileTree) (location : Location) : List String → Except FileError Location
  | [] => .ok location
  | name :: names =>
      match tree.follow location name with
      | .ok location => tree.followAll location names
      | .error cause => .error cause

/-- The location that a path leads to, at which there may be nothing. -/
def resolve (tree : FileTree) (p : Path) : Except FileError Location :=
  let cs := p.text.toList
  if cs.contains '\x00' then .error .containsNull
  else if cs.isEmpty then .error .notFound
  else if maxPathSize < p.text.utf8ByteSize then .error .nameTooLong
  else
    tree.followAll (if p.isAbsolute then [] else tree.place)
      ((Text.splitOn '/' cs).map String.ofList)

/-- Whether a path leads to a file that is no device. -/
def isFile (tree : FileTree) (p : Path) : Bool :=
  match tree.resolve p with
  | .ok location => (tree.content? location).any (· ≠ .device)
  | .error _ => false

/-- Whether a path leads to a directory. -/
def isDirectory (tree : FileTree) (p : Path) : Bool :=
  match tree.resolve p with
  | .ok location => tree.hasDirectory location
  | .error _ => false

/-- The text of the file that a path leads to. -/
def read (tree : FileTree) (p : Path) : Except FileError String :=
  match tree.resolve p with
  | .error cause => .error cause
  | .ok location =>
      match tree.content? location with
      | some (.text text) => .ok text
      | some .binary => .error .notText
      | some .device => .ok ""
      | none => if tree.hasDirectory location then .error .isDirectory else .error .notFound

/-- Whether a location comes before another one: names are compared one after the other. -/
def before : Location → Location → Bool
  | [], _ => true
  | _ :: _, [] => false
  | a :: as, b :: bs => if a = b then before as bs else decide (a < b)

/-- The files below the directory that a path leads to, devices apart, by the names that lead
there. -/
def filesBelow (tree : FileTree) (p : Path) : List (List String) :=
  match tree.resolve p with
  | .ok location =>
      inOrder before (tree.files.filterMap fun (file, content) =>
        if location.isPrefixOf file && content != .device then some (file.drop location.length)
        else none)
  | .error _ => []

/-- The tree with a text written to the file that a path leads to. -/
def writePath (tree : FileTree) (p : Path) (text : String) : FileTree :=
  match tree.resolve p with
  | .ok location => tree.write location text
  | .error _ => tree

/-- The tree with texts written, in order. -/
def writeAll (tree : FileTree) (writes : List (Path × String)) : FileTree :=
  writes.foldl (fun tree (path, text) => tree.writePath path text) tree

end FileTree

end CallMigration
