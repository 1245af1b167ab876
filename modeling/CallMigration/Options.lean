import CallMigration.Path

/-!
# Command line options

What a command line can ask for, and how it is answered if it asks for nothing.
-/

namespace CallMigration

/-- How findings are printed. -/
inductive OutputFormat where
  | pretty
  | json
  | github
deriving DecidableEq, Inhabited

/-- What a check is asked to do. -/
structure CheckOptions where
  /-- Manifests, and directories that hold manifests. -/
  paths : List Path := []
  format : OutputFormat := .pretty
  /-- The configuration file, where it is not to be searched for. -/
  config : Option Path := none
  /-- Prefixes that select APIs. -/
  prefixes : List String := []
  keepCommentCallSites : Bool := false
  checkFixCompiles : Bool := false
  /-- Flags that change settings. -/
  flags : List String := []
  /-- Whether sources are changed. -/
  fix : Bool := false
  /-- Whether the changed sources are shown as differences. -/
  diff : Bool := false
  /-- Whether findings make the check fail. -/
  denyWarnings : Bool := false
deriving DecidableEq, Inhabited

/-- What a command line asks for. -/
inductive Request where
  /-- A check; `named` says whether the command was named. -/
  | check (named : Bool) (options : CheckOptions)
  | explain
deriving DecidableEq

/-- How a command line is answered by its reader, without a request. -/
inductive Dismissal where
  /-- A text that was asked for is printed, such as one about the options. -/
  | display (text : String)
  /-- The command line is wrong, which is said. -/
  | refusal (message : String)
deriving DecidableEq

end CallMigration
