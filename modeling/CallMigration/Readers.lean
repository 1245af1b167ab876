import CallMigration.Json
import CallMigration.Options
import CallMigration.Toml

/-!
# Readers

The syntax of documents and of command lines is a matter of readers that are handed to the program.
What it makes of the values that documents hold, and of the requests that command lines make, is its
own.
-/

namespace CallMigration

/-- The readers of documents and command lines. -/
structure Readers where
  /-- The value that a JSON document holds, if it holds one. -/
  json : String → Option Json
  /-- The entries of a TOML document, if it is one. -/
  toml : String → Option Toml.Entries
  /-- What a command line asks for. -/
  request : List String → Except Dismissal Request

/-- Whether no command line asks for a check that both changes sources and shows differences: the
two options are declared to exclude each other. -/
def Readers.ExcludeModes (readers : Readers) : Prop :=
  ∀ arguments named options, readers.request arguments = .ok (.check named options) →
    (options.fix && options.diff) = false

end CallMigration
