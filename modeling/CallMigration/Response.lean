import CallMigration.Check
import CallMigration.Explanation

/-!
# Responses

What the program answers to a command line, on whatever system it runs. As with a check, the texts
to be written are part of the answer.
-/

namespace CallMigration

/-- What the program answers to a command line, and what it has to write. -/
structure Response where
  exitCode : Nat
  /-- What is printed. -/
  output : String
  /-- What is said besides. -/
  messages : String
  /-- The texts to be written, in order. -/
  writes : List (Path × String)
deriving DecidableEq

namespace Response

/-- The answer to a command line that makes no request. -/
def ofDismissal : Dismissal → Response
  | .display text => ⟨0, text, "", []⟩
  | .refusal message => ⟨2, "", message, []⟩

/-- The answer that explains the check. -/
def explaining : Response := ⟨0, explanation, "", []⟩

/-- The answer to a check. -/
def ofReport (report : Report) : Response :=
  ⟨report.exitCode, report.output, report.messages, report.writes⟩

end Response

/-- Answers a command line. -/
def Disk.respond {m : Type → Type} [Monad m] (disk : Disk m) (readers : Readers)
    (arguments : List String) : m Response := do
  match readers.request arguments with
  | .error dismissal => return .ofDismissal dismissal
  | .ok .explain => return .explaining
  | .ok (.check _ options) => return .ofReport (← disk.check readers options)

end CallMigration
