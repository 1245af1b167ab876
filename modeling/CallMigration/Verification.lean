import CallMigration.Edit.Batch
import CallMigration.Path
import CallMigration.Text.Replace

/-!
# Verification

A fix is verified by a command that is run on a copy of the source with the edit made. The copy
stands in a directory of its own and keeps the name of the source; its path stands for every
`{file}` in the arguments. Only a command that ends with success in time confirms the fix.

How directories are made and commands are run is left to a system (`Commands`).
-/

namespace CallMigration

/-- A program that is to be run on a text. -/
structure Trial where
  /-- The file that the text is put into. -/
  file : Path
  text : String
  program : String
  arguments : List String
deriving DecidableEq

/-- How the program of a trial ends. -/
structure Trial.Ending where
  success : Bool
  /-- How long the program has run, in milliseconds. -/
  elapsed : Nat
deriving DecidableEq

/-- What a system does for verifications. Its answers come about in `m`. -/
structure Commands (m : Type → Type) where
  /-- Makes a new directory, if that is possible. -/
  newDirectory : m (Option Path)
  /-- Puts a text into a file and runs a program on it. There is no ending where the text cannot be
  put there, where the program cannot be started, or where it never ends. -/
  run : Trial → m (Option Trial.Ending)
  /-- Removes a directory and all that it holds. -/
  removeDirectory : Path → m Unit

/-- How fixes of one source are verified. -/
structure Verification where
  sourcePath : Path
  source : String
  /-- The program and its arguments. -/
  command : List String
  /-- How long the command may take, in milliseconds. -/
  timeout : Nat
deriving DecidableEq, Inhabited

namespace Verification

/-- The time limit where nothing else is said, in milliseconds. -/
def defaultTimeout : Nat := 60000

/-- How often a running command is looked at, in milliseconds. -/
def pollInterval : Nat := 20

/-- The name of the copy: that of the source, or a stand-in where it has none. -/
def copyName (v : Verification) : String := v.sourcePath.fileName?.getD "Source.java"

/-- What stands for the path of the copy in arguments. -/
def placeholder : String := "\x7bfile\x7d"

/-- An argument with the path of the copy put in. -/
def argument (copy : Path) (text : String) : String :=
  String.ofList (Text.replaceAll placeholder.toList copy.text.toList text.toList)

/-- The trial of the command on a text, in a directory. -/
def trial? (v : Verification) (directory : Path) (text : String) : Option Trial :=
  let copy := directory.join ⟨v.copyName⟩
  match v.command with
  | [] => none
  | program :: arguments => some ⟨copy, text, program, arguments.map (argument copy)⟩

/-- Whether a command that takes so long is done when it is looked at for the last time, which is
the first time at or after the limit. -/
def inTime (timeout elapsed : Nat) : Bool :=
  elapsed < pollInterval * ((timeout + pollInterval - 1) / pollInterval)

variable {m : Type → Type} [Monad m]

/-- Whether the command confirms a text. -/
def confirms (v : Verification) (commands : Commands m) (text : String) : m Bool := do
  match ← commands.newDirectory with
  | none => return false
  | some directory => do
      let ending ← match v.trial? directory text with
        | none => pure none
        | some trial => commands.run trial
      commands.removeDirectory directory
      return ending.any fun e => e.success && inTime v.timeout e.elapsed

/-- Whether the source compiles with an edit made, as far as it is confirmed. -/
def compiles (v : Verification) (confirms : String → m Bool) (edit : Edit) : m Bool :=
  match edit.apply v.source with
  | .error _ => return false
  | .ok text => confirms text

end Verification

end CallMigration
