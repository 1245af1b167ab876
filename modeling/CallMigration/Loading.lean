import CallMigration.Config
import CallMigration.Disk
import CallMigration.Manifest.Decoding
import CallMigration.Manifest.Loaded
import CallMigration.Readers

/-!
# Loading

How configurations and manifests are found on a disk and read. A configuration is searched for in a
directory and all those above it. A directory among the paths stands for the manifests below it.
-/

namespace CallMigration

/-- Why something could not be loaded. -/
inductive LoadError where
  | configUnreadable (path : Path) (cause : FileError)
  | configMalformed (path : Path)
  | directoryUnreadable (path : Path) (cause : FileError)
  | manifestUnreadable (path : Path) (cause : FileError)
  | manifestMalformed (path : Path)
  | sourceUnreadable (path : Path) (cause : FileError)
  | manifestInvalid (path : Path) (cause : ManifestError)
deriving DecidableEq

/-- The wording of a load error. -/
def LoadError.message : LoadError → String
  | .configUnreadable path cause =>
      "failed to read config file: " ++ path.text ++ ": " ++ cause.message
  | .configMalformed path => "failed to parse config file: " ++ path.text
  | .directoryUnreadable path cause =>
      "failed to walk directory: " ++ path.text ++ ": " ++ cause.message
  | .manifestUnreadable path cause =>
      "failed to read manifest: " ++ path.text ++ ": " ++ cause.message
  | .manifestMalformed path => "failed to parse manifest: " ++ path.text
  | .sourceUnreadable path cause =>
      "failed to read source file: " ++ path.text ++ ": " ++ cause.message
  | .manifestInvalid path cause => "invalid manifest: " ++ path.text ++ ": " ++ cause.message

namespace Config

/-- The name of configuration files. -/
def fileName : String := "inline-me.toml"

end Config

namespace Disk

variable {m : Type → Type} [Monad m] (disk : Disk m) (readers : Readers)

/-- The first of some files that is there. -/
def firstFile : List Path → m (Option Path)
  | [] => return none
  | path :: paths => do
      if ← disk.isFile path then return some path else firstFile paths

/-- The configuration file that applies to a directory: its own or the nearest one above. -/
def findConfig (start : Path) : m (Option Path) :=
  disk.firstFile (start.ancestors.map (·.join ⟨Config.fileName⟩))

/-- Reads a configuration file. -/
def readConfig (path : Path) : m (Except LoadError Config) := do
  return match ← disk.read path with
    | .error cause => .error (.configUnreadable path cause)
    | .ok document =>
        match (readers.toml document).bind Config.ofEntries? with
        | some config => .ok config
        | none => .error (.configMalformed path)

/-- Reads a configuration file, if there is one. -/
def readFound : Option Path → m (Except LoadError (Option (Path × Config)))
  | none => return .ok none
  | some path => return (← disk.readConfig readers path).map fun config => some (path, config)

/-- Reads the configuration that applies to a directory, unless another one is named. -/
def loadConfig (named : Option Path) (start : Path) :
    m (Except LoadError (Option (Path × Config))) := do
  match named with
  | some path => disk.readFound readers (some path)
  | none => disk.readFound readers (← disk.findConfig start)

/-- The manifests that one path stands for. -/
def manifestsAt (path : Path) : m (Except LoadError (List Path)) := do
  if ← disk.isDirectory path then
    return match ← disk.filesBelow path with
      | .error cause => .error (.directoryUnreadable path cause)
      | .ok files =>
          .ok ((files.map fun names => names.foldl (fun p name => p.join ⟨name⟩) path).filter
            Path.isManifest)
  else return .ok [path]

/-- The manifests that paths stand for, in order. -/
def collectManifests : List Path → m (Except LoadError (List Path))
  | [] => return .ok []
  | path :: paths => do
      match ← disk.manifestsAt path with
      | .error cause => return .error cause
      | .ok manifests => return (← collectManifests paths).map (manifests ++ ·)

/-- Reads a manifest and the source that it names, which it names from its own directory. -/
def loadManifest (path : Path) : m (Except LoadError LoadedManifest) := do
  match ← disk.read path with
  | .error cause => return .error (.manifestUnreadable path cause)
  | .ok document =>
      match (readers.json document).bind Manifest.ofJson? with
      | none => return .error (.manifestMalformed path)
      | some manifest =>
          let sourcePath := (path.parent?.getD ⟨"."⟩).join ⟨manifest.source⟩
          return match ← disk.read sourcePath with
            | .error cause => .error (.sourceUnreadable sourcePath cause)
            | .ok source =>
                (LoadedManifest.ofRecords sourcePath source manifest.records).mapError
                  (.manifestInvalid path)

end Disk

end CallMigration
