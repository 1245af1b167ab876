import CallMigration.Shell.Evaluation
import CallMigration.Verification

/-!
# The shell as a system of commands

The shell and its utilities in the place of a system's programs (`Shell.commands`), so that
verifications can be tried out without starting a process. A program sees the text of its trial and
no other file.
-/

namespace CallMigration.Shell

/-- How many bytes the name of a file may have. -/
def maxNameSize : Nat := 255

/-- How many bytes an argument may have. -/
def maxArgumentSize : Nat := 131071

/-- Whether a text of so many bytes at most can be handed to a system. -/
def isPossible (maxSize : Nat) (text : String) : Bool :=
  text.utf8ByteSize ≤ maxSize && !text.toList.contains '\x00'

/-- How the program of a trial ends. -/
def ending? (trial : Trial) : Option Trial.Ending :=
  if trial.file.fileName?.all (isPossible maxNameSize)
      && (trial.program :: trial.arguments).all (isPossible maxArgumentSize) then
    (execute? [(trial.file.text, trial.text)] trial.program trial.arguments).map fun ending =>
      ⟨ending.status == 0, ending.elapsed⟩
  else none

/-- The shell and its utilities as commands. One directory does for all trials. -/
def commands {m : Type → Type} [Monad m] : Commands m where
  newDirectory := return some ⟨"/tmp/.tmpInline"⟩
  run trial := return ending? trial
  removeDirectory _ := return ()

end CallMigration.Shell
