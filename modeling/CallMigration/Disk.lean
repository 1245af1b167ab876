import CallMigration.Verification

/-!
# Disks

What the program asks of the system it runs on, in whatever way the answers come about: what there
is among its files, and whether a command confirms a text. The program itself writes nothing on the
way; what is to be written is a result like any other.
-/

namespace CallMigration

/-- Why a file cannot be read. -/
inductive FileError where
  | notFound
  /-- Something on the way to the file is not a directory. -/
  | notDirectory
  | isDirectory
  | nameTooLong
  /-- The path holds a null character. -/
  | containsNull
  /-- The file is not UTF-8. -/
  | notText
  /-- Any other cause, in the words of the system. -/
  | other (message : String)
deriving DecidableEq

/-- The wording of a file error. -/
def FileError.message : FileError → String
  | .notFound => "No such file or directory (os error 2)"
  | .notDirectory => "Not a directory (os error 20)"
  | .isDirectory => "Is a directory (os error 21)"
  | .nameTooLong => "File name too long (os error 36)"
  | .containsNull => "file name contained an unexpected NUL byte"
  | .notText => "stream did not contain valid UTF-8"
  | .other message => message

/-- A file system with commands to run on it, which answers in `m`. -/
structure Disk (m : Type → Type) where
  isFile : Path → m Bool
  isDirectory : Path → m Bool
  /-- The text of a file. -/
  read : Path → m (Except FileError String)
  /-- The files below a directory, each by the names that lead to it, in the order of these
  names. -/
  filesBelow : Path → m (Except FileError (List (List String)))
  /-- Whether the command of a verification confirms a text. -/
  confirms : Verification → String → m Bool

end CallMigration
