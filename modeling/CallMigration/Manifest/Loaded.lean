import CallMigration.Inlining
import CallMigration.Manifest.Record
import CallMigration.Path

/-!
# Loaded manifests

A manifest together with its source is turned into call sites with their templates. What was
recorded about the side effects of receivers takes precedence over their spelling; of several
records for one range the last counts.

`LoadedManifest.findings` inlines all call sites, each on its own. Where the answers about what
compiles have to be fetched, `LoadedManifest.findingsAsking` asks for them as it goes along.
-/

namespace CallMigration

/-- A call site with the template for its API, if there is one. -/
structure ManifestEntry where
  site : CallSite
  template : Option Template
deriving DecidableEq

/-- A manifest whose call sites have been read off its source. -/
structure LoadedManifest where
  sourcePath : Path
  source : String
  entries : List ManifestEntry
  /-- What is known about the side effects of receivers, by their ranges, last record first. -/
  answers : List (TextRange × Bool)
deriving DecidableEq

namespace LoadedManifest

/-- The entry that a record gives. -/
def entry (source : String) (r : CallRecord) : Except ManifestError ManifestEntry :=
  match r.site source with
  | .error cause => .error cause
  | .ok site => r.template?.map fun template => ⟨site, template⟩

/-- The entries that records give, in order; the first record that gives none is reported. -/
def entriesOf (source : String) : List CallRecord → Except ManifestError (List ManifestEntry)
  | [] => .ok []
  | r :: records =>
      match entry source r with
      | .error cause => .error cause
      | .ok e => (entriesOf source records).map (e :: ·)

/-- What a record says about the side effect of its receiver. -/
def answer? (r : CallRecord) : Option (TextRange × Bool) :=
  match r.receiver, r.receiverSideEffect with
  | some range, some answer => some (range, answer)
  | _, _ => none

/-- The manifest of a source with the given records. -/
def ofRecords (sourcePath : Path) (source : String) (records : List CallRecord) :
    Except ManifestError LoadedManifest :=
  (entriesOf source records).map fun entries =>
    ⟨sourcePath, source, entries, (records.filterMap answer?).reverse⟩

/-- Whether evaluating a receiver may have a side effect: as recorded, else by its spelling. -/
def hasSideEffect (m : LoadedManifest) (receiver : Expression) : Bool :=
  match m.answers.find? (·.1 = receiver.range) with
  | some (_, answer) => answer
  | none => receiver.mayHaveSideEffect

/-- The inspection of one entry, in a file with the given import table. -/
def inspect (m : LoadedManifest) (table : ImportTable) (settings : Settings)
    (compiles : Option (Fix → Bool)) (e : ManifestEntry) : Inspection :=
  e.site.inline e.template settings table ⟨m.hasSideEffect, compiles⟩

/-- The findings for a manifest, in the order of its entries. -/
def findings (m : LoadedManifest) (settings : Settings) (compiles : Option (Fix → Bool)) :
    List Finding :=
  let table := ImportTable.ofSource m.source
  m.entries.filterMap fun e =>
    (m.inspect table settings compiles e).verdict.finding?.map
      (·.located m.sourcePath.text m.source)

section Asking

variable {μ : Type → Type} [Monad μ]

/-- The inspection of one entry, where the answers about what compiles come about in `μ`. Which fix
is asked about does not depend on the answer, and there is one at most: so it is known
beforehand. -/
def inspectAsking (m : LoadedManifest) (table : ImportTable) (settings : Settings)
    (compiles : Option (Fix → μ Bool)) (e : ManifestEntry) : μ Inspection :=
  match compiles with
  | none => return m.inspect table settings none e
  | some compiles =>
      let answered := fun answer => m.inspect table settings (some fun _ => answer) e
      match (answered true).compileQueries with
      | [] => return answered true
      | fix :: _ => return answered (← compiles fix)

/-- The inspections of entries, one after the other. -/
def inspectAllAsking (m : LoadedManifest) (table : ImportTable) (settings : Settings)
    (compiles : Option (Fix → μ Bool)) : List ManifestEntry → μ (List Inspection)
  | [] => return []
  | e :: entries => do
      let inspection ← m.inspectAsking table settings compiles e
      return inspection :: (← inspectAllAsking m table settings compiles entries)

/-- The findings for a manifest, where the answers about what compiles come about in `μ`. -/
def findingsAsking (m : LoadedManifest) (settings : Settings) (compiles : Option (Fix → μ Bool)) :
    μ (List Finding) := do
  let inspections ←
    m.inspectAllAsking (.ofSource m.source) settings compiles m.entries
  return inspections.filterMap fun inspection =>
    inspection.verdict.finding?.map (·.located m.sourcePath.text m.source)

end Asking

end LoadedManifest

end CallMigration
