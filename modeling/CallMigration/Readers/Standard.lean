import CallMigration.Json.Reader
import CallMigration.Options.Reader
import CallMigration.Readers
import CallMigration.Toml.Reader

/-!
# Standard readers

Readers of JSON, of TOML and of command lines that do as the usual ones do, but say nothing: neither
a text about the options nor what is wrong with a command line.
-/

namespace CallMigration

/-- The name and version of the program. -/
def programVersion : String := "inline-me 0.1.0"

/-- How a command line is answered that makes no request. -/
def UsageError.dismissal : UsageError → Dismissal
  | .help => .display ""
  | .version => .display (programVersion ++ "\n")
  | _ => .refusal ""

/-- The standard readers. -/
def Readers.standard : Readers where
  json := Json.read?
  toml := Toml.read?
  request arguments := (Request.read arguments).mapError UsageError.dismissal

end CallMigration
