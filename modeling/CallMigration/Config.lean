import CallMigration.Settings
import CallMigration.Toml.Decoder

/-!
# Configuration files

A configuration file gives settings and the command that verifies fixes. It admits no entries but
those named here, and none of them has to be there.
-/

namespace CallMigration

/-- What a configuration file says. -/
structure Config where
  /-- The prefixes that select APIs, as written. -/
  prefixes : List String
  skipComments : Option Bool
  checkFixCompiles : Option Bool
  /-- The command that verifies a fix, with its arguments; no command verifies none. -/
  command : List String
  /-- How long a verification may take, in seconds. -/
  timeoutSeconds : Option Nat
deriving DecidableEq, Inhabited

namespace Config

/-- What the configuration says about inlining, on its own. -/
def ofInlinerEntries? (config : Config) (value : Toml) : Option Config := do
  let [prefixes, skip, check] ←
    value.record? ["prefixes", "skip_callsites_with_comments", "check_fix_compiles"] | none
  return { config with
    prefixes := ← Toml.orElse? [] (Toml.asList? Toml.asText?) prefixes
    skipComments := ← Toml.optional? Toml.asBool? skip
    checkFixCompiles := ← Toml.optional? Toml.asBool? check }

/-- What the configuration says about verification, on its own. -/
def ofVerifyEntries? (config : Config) (value : Toml) : Option Config := do
  let [command, timeout] ← value.record? ["command", "timeout_secs"] | none
  return { config with
    command := ← Toml.orElse? [] (Toml.asList? Toml.asText?) command
    timeoutSeconds := ← Toml.optional? Toml.asCount? timeout }

/-- The configuration of an empty file. -/
def empty : Config := ⟨[], none, none, [], none⟩

/-- The configuration that the entries of a document give. -/
def ofEntries? (entries : Toml.Entries) : Option Config := do
  let [inliner, verify] ← entries.record? ["inliner", "verify"] | none
  let config ← match inliner with
    | none => some empty
    | some value => ofInlinerEntries? empty value
  match verify with
  | none => some config
  | some value => ofVerifyEntries? config value

/-- The settings that the configuration gives. -/
def settings (config : Config) : Settings :=
  let d := Settings.default
  { d with
    skipComments := config.skipComments.getD d.skipComments
    checkFixCompiles := config.checkFixCompiles.getD d.checkFixCompiles }.withPrefixes
      config.prefixes

end Config

end CallMigration
