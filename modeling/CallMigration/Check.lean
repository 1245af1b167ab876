import CallMigration.Diff
import CallMigration.Finding.Application
import CallMigration.Finding.Document
import CallMigration.Finding.Rendering
import CallMigration.Loading

/-!
# Checks

A check gathers the findings for all manifests that its paths stand for and then reports on them: it
prints them, shows the changed sources as differences, or changes the sources. All reading comes
before any writing, and what is to be written is part of the report.
-/

namespace CallMigration

/-- Why a check comes to no end. -/
inductive CheckError where
  | noPaths
  | flag (cause : FlagError)
  | load (cause : LoadError)
  | edit (cause : EditError)
deriving DecidableEq

/-- The wording of a check error. -/
def CheckError.message : CheckError → String
  | .noPaths => "no manifest paths given"
  | .flag cause => cause.message
  | .load cause => cause.message
  | .edit cause => cause.message

/-- How a check ends. -/
inductive Conclusion where
  | clean
  /-- There are findings, and they are not accepted. -/
  | denied
  | failed (cause : CheckError)
deriving DecidableEq

/-- The exit code of a conclusion. -/
def Conclusion.exitCode : Conclusion → Nat
  | .clean => 0
  | .denied => 1
  | .failed _ => 2

/-- What a check has to say and to write. -/
structure Report where
  /-- What is printed. -/
  output : String
  /-- What is said besides. -/
  notes : String
  /-- The texts to be written, in order. -/
  writes : List (Path × String)
  conclusion : Conclusion
deriving DecidableEq

namespace Report

/-- The report of a check that fails before it has anything to say. -/
def failure (cause : CheckError) : Report := ⟨"", "", [], .failed cause⟩

/-- The exit code. -/
def exitCode (report : Report) : Nat := report.conclusion.exitCode

/-- What is said besides, with the cause of a failure. -/
def messages (report : Report) : String :=
  match report.conclusion with
  | .failed cause => report.notes ++ cause.message ++ "\n"
  | _ => report.notes

end Report

/-- A manifest with its findings. -/
structure Batch where
  manifest : LoadedManifest
  findings : List Finding
deriving DecidableEq

namespace CheckOptions

/-- The settings of a check: those of the configuration changed by flags, then by options of their
own. Prefixes given as an option replace all others. -/
def settings (options : CheckOptions) (config : Option Config) : Except FlagError Settings :=
  let base := config.elim Settings.default Config.settings
  (base.applyFlags options.flags).map fun s =>
    let s := if options.prefixes.isEmpty then s
      else Settings.withPrefixes { s with prefixes := [] } options.prefixes
    let s := if options.keepCommentCallSites then { s with skipComments := false } else s
    if options.checkFixCompiles then { s with checkFixCompiles := true } else s

end CheckOptions

namespace Batch

/-- The source with the fixes made. -/
def fixed (batch : Batch) : Except EditError FixedSource :=
  Finding.applyAll batch.manifest.source batch.findings

end Batch

/-- What fixing sources amounts to so far. -/
structure Revision where
  /-- The differences, in order. -/
  diff : String
  /-- The changed sources, in order. -/
  writes : List (Path × String)
  applied : Nat
  deferred : Nat
deriving DecidableEq

namespace Revision

/-- Nothing fixed. -/
def none : Revision := ⟨"", [], 0, 0⟩

/-- The revision with one more source fixed. -/
def add (r : Revision) (manifest : LoadedManifest) (fixed : FixedSource) : Revision where
  diff := r.diff ++
    Diff.unified manifest.source fixed.source manifest.sourcePath Diff.defaultContext
  writes :=
    if fixed.source = manifest.source then r.writes
    else r.writes ++ [(manifest.sourcePath, fixed.source)]
  applied := r.applied + fixed.applied
  deferred := r.deferred + fixed.deferred

/-- Fixes the sources of batches with findings, in order. When one cannot be fixed, those before it
stay fixed. -/
def ofBatches (r : Revision) : List Batch → Revision × Option EditError
  | [] => (r, .none)
  | batch :: batches =>
      if batch.findings.isEmpty then ofBatches r batches
      else
        match batch.fixed with
        | .error cause => (r, some cause)
        | .ok fixed => ofBatches (r.add batch.manifest fixed) batches

/-- What is said about fixes that were put off. -/
def deferredNote (r : Revision) : String :=
  if r.deferred = 0 then ""
  else toString r.deferred ++ " overlapping fix(es) deferred; re-record and run again to apply\n"

/-- What is said where differences are shown. -/
def diffNote (r : Revision) : String :=
  toString r.applied ++ " fix(es) would be applied\n" ++ r.deferredNote

/-- What is said where sources are changed. -/
def fixNote (r : Revision) : String :=
  "Applied " ++ toString r.applied ++ " fix(es) to " ++ toString r.writes.length ++ " file(s)\n"
    ++ r.deferredNote

end Revision

namespace Report

/-- The end of a check with or without findings. -/
def conclude (options : CheckOptions) (hasFindings : Bool) : Conclusion :=
  if options.denyWarnings && hasFindings then .denied else .clean

/-- Findings in the format asked for. -/
def render (format : OutputFormat) (findings : List Finding) : String :=
  match format with
  | .json => Finding.document findings ++ "\n"
  | .pretty => String.join (findings.map (·.pretty ++ "\n"))
  | .github => String.join (findings.map (·.workflowCommand ++ "\n"))

/-- The report that prints findings. -/
def ofFindings (options : CheckOptions) (findings : List Finding) : Report :=
  ⟨render options.format findings, "", [], conclude options !findings.isEmpty⟩

/-- The report that changes sources or shows their differences. -/
def ofRevision (options : CheckOptions) : Revision × Option EditError → Report
  | (r, some cause) =>
      if options.diff then ⟨r.diff, "", [], .failed (.edit cause)⟩
      else ⟨"", "", r.writes, .failed (.edit cause)⟩
  | (r, none) =>
      let conclusion := conclude options (0 < r.applied + r.deferred)
      if options.diff then ⟨r.diff, r.diffNote, [], conclusion⟩
      else ⟨"", r.fixNote, r.writes, conclusion⟩

/-- The report on batches. -/
def ofBatches (options : CheckOptions) (batches : List Batch) : Report :=
  if options.fix || options.diff then ofRevision options (Revision.none.ofBatches batches)
  else ofFindings options (batches.flatMap (·.findings))

/-- The report on what has been gathered. -/
def ofGathered (options : CheckOptions) : Except CheckError (List Batch) → Report
  | .error cause => failure cause
  | .ok batches => ofBatches options batches

end Report

namespace Disk

variable {m : Type → Type} [Monad m] (disk : Disk m) (readers : Readers)

/-- The directory from which a configuration is searched for: the first path, or the one that holds
it where it is a file. -/
def startDirectory (first : Path) : m Path := do
  if ← disk.isFile first then return first.parent?.getD ⟨"."⟩ else return first

/-- Who is asked whether fixes of a source compile, if there is a command to run. -/
def verifier? (sourcePath : Path) (source : String) (command : List String) (timeout : Nat) :
    Option (Fix → m Bool) :=
  let v : Verification := ⟨sourcePath, source, command, timeout⟩
  if command.isEmpty then none else some fun fix => v.compiles (disk.confirms v) fix.edit

/-- A manifest with its findings, verified by the command of the configuration, if it has one. -/
def batch (settings : Settings) (config : Option Config) (manifest : LoadedManifest) : m Batch := do
  let command := (config.map (·.command)).getD []
  let timeout := ((config.bind (·.timeoutSeconds)).map (· * 1000)).getD
    Verification.defaultTimeout
  let verifier := disk.verifier? manifest.sourcePath manifest.source command timeout
  return ⟨manifest, ← manifest.findingsAsking settings verifier⟩

/-- Reads manifests and finds what there is to find for each before the next one is read; the first
that cannot be loaded is reported. -/
def loadBatches (settings : Settings) (config : Option Config) :
    List Path → m (Except LoadError (List Batch))
  | [] => return .ok []
  | path :: paths => do
      match ← disk.loadManifest readers path with
      | .error cause => return .error cause
      | .ok manifest => do
          let batch ← disk.batch settings config manifest
          return (← loadBatches settings config paths).map (batch :: ·)

/-- The batches for paths with the given settings. -/
def batches (settings : Settings) (config : Option Config) (paths : List Path) :
    m (Except CheckError (List Batch)) := do
  match ← disk.collectManifests paths with
  | .error cause => return .error (.load cause)
  | .ok manifests =>
      return (← disk.loadBatches readers settings config manifests).mapError .load

/-- The batches that a check is about. -/
def gather (options : CheckOptions) : m (Except CheckError (List Batch)) := do
  match options.paths with
  | [] => return .error .noPaths
  | first :: _ =>
      match ← disk.loadConfig readers options.config (← disk.startDirectory first) with
      | .error cause => return .error (.load cause)
      | .ok found =>
          let config := found.map (·.2)
          match options.settings config with
          | .error cause => return .error (.flag cause)
          | .ok settings => disk.batches readers settings config options.paths

/-- Makes a check. -/
def check (options : CheckOptions) : m Report := do
  return .ofGathered options (← disk.gather readers options)

end Disk

end CallMigration
