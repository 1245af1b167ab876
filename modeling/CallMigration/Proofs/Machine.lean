import CallMigration.Machine
import CallMigration.Proofs.Loading
import CallMigration.Readers.Standard

/-!
# Runs on a reliable machine

On a machine whose commands can be relied on, everything that the program asks on the way has the
outcome that it has on the files as they are (`Yields`). This is carried from the questions to what
a check gathers, one step of the program after the other, so that it does not matter when a question
is asked or what else goes on: all runs on the same files gather the same
(`Machine.IsReliable.gather_eq`), and before the program writes its texts the files are what they
were (`Machine.IsReliable.tree_afterRun`).
-/

namespace CallMigration

variable {σ : Type}

/-- Whether a computation has a certain outcome in every state that satisfies an invariant, and
keeps the invariant. -/
def Yields {α : Type} (inv : σ → Prop) (x : StateM σ α) (a : Id α) : Prop :=
  ∀ s, inv s → (x.run s).1 = a.run ∧ inv (x.run s).2

namespace Yields

variable {inv : σ → Prop} {α β : Type}

theorem pure (a : α) : Yields inv (pure a) (pure a) := fun _ h => ⟨rfl, h⟩

/-- One step after the other. -/
theorem bind {x : StateM σ α} {a : Id α} {f : α → StateM σ β} {g : α → Id β}
    (hx : Yields inv x a) (hf : Yields inv (f a.run) (g a.run)) :
    Yields inv (x >>= f) (a >>= g) := by
  intro s hs
  obtain ⟨houtcome, hkept⟩ := hx s hs
  have hstep : (x >>= f).run s = (f a.run).run (x.run s).2 := by
    rw [← houtcome]
    rfl
  rw [hstep]
  exact hf _ hkept

end Yields

/-- Whether a disk with a state answers as one without, as long as an invariant holds. -/
structure Disk.AnswersAs (disk : Disk (StateM σ)) (inv : σ → Prop) (still : Disk Id) : Prop where
  isFile : ∀ p, Yields inv (disk.isFile p) (still.isFile p)
  isDirectory : ∀ p, Yields inv (disk.isDirectory p) (still.isDirectory p)
  read : ∀ p, Yields inv (disk.read p) (still.read p)
  filesBelow : ∀ p, Yields inv (disk.filesBelow p) (still.filesBelow p)
  confirms : ∀ v text, Yields inv (disk.confirms v text) (still.confirms v text)

section Asking

variable {inv : σ → Prop} {asks : Fix → StateM σ Bool} {knows : Fix → Id Bool}

theorem yields_inspectAllAsking {asks : Option (Fix → StateM σ Bool)}
    {knows : Option (Fix → Id Bool)} (m : LoadedManifest) (table : ImportTable)
    (settings : Settings)
    (h : ∀ e, Yields inv (m.inspectAsking table settings asks e)
      (m.inspectAsking table settings knows e)) (entries : List ManifestEntry) :
    Yields inv (m.inspectAllAsking table settings asks entries)
      (m.inspectAllAsking table settings knows entries) := by
  induction entries with
  | nil => exact .pure _
  | cons e entries ih => exact (h e).bind (ih.bind (.pure _))

theorem yields_inspectAsking (h : ∀ fix, Yields inv (asks fix) (knows fix)) (m : LoadedManifest)
    (table : ImportTable) (settings : Settings) (e : ManifestEntry) :
    Yields inv (m.inspectAsking table settings (some asks) e)
      (m.inspectAsking table settings (some knows) e) := by
  unfold LoadedManifest.inspectAsking
  simp only
  split
  · exact .pure _
  · next fix _ _ => exact (h fix).bind (.pure _)

end Asking

namespace Disk.AnswersAs

variable {disk : Disk (StateM σ)} {inv : σ → Prop} {still : Disk Id} {readers : Readers}
  (h : disk.AnswersAs inv still)
include h

theorem firstFile (paths : List Path) :
    Yields inv (disk.firstFile paths) (still.firstFile paths) := by
  induction paths with
  | nil => exact .pure _
  | cons path paths ih =>
      refine (h.isFile path).bind ?_
      split
      · exact .pure _
      · exact ih

theorem readConfig (path : Path) :
    Yields inv (disk.readConfig readers path) (still.readConfig readers path) :=
  (h.read path).bind (.pure _)

theorem readFound (found : Option Path) :
    Yields inv (disk.readFound readers found) (still.readFound readers found) := by
  cases found with
  | none => exact .pure _
  | some path => exact (h.readConfig path).bind (.pure _)

theorem loadConfig (named : Option Path) (start : Path) :
    Yields inv (disk.loadConfig readers named start) (still.loadConfig readers named start) := by
  cases named with
  | some path => exact h.readFound (some path)
  | none => exact (h.firstFile _).bind (h.readFound _)

theorem manifestsAt (path : Path) :
    Yields inv (disk.manifestsAt path) (still.manifestsAt path) := by
  refine (h.isDirectory path).bind ?_
  split
  · exact (h.filesBelow path).bind (.pure _)
  · exact .pure _

theorem collectManifests (paths : List Path) :
    Yields inv (disk.collectManifests paths) (still.collectManifests paths) := by
  induction paths with
  | nil => exact .pure _
  | cons path paths ih =>
      refine (h.manifestsAt path).bind ?_
      split
      · exact .pure _
      · exact ih.bind (.pure _)

theorem loadManifest (path : Path) :
    Yields inv (disk.loadManifest readers path) (still.loadManifest readers path) := by
  refine (h.read path).bind ?_
  split
  · exact .pure _
  · split
    · exact .pure _
    · exact (h.read _).bind (.pure _)

theorem startDirectory (first : Path) :
    Yields inv (disk.startDirectory first) (still.startDirectory first) := by
  refine (h.isFile first).bind ?_
  split <;> exact .pure _

theorem compiles (v : Verification) (edit : Edit) :
    Yields inv (v.compiles (disk.confirms v) edit) (v.compiles (still.confirms v) edit) := by
  unfold Verification.compiles
  split
  · exact .pure _
  · exact h.confirms v _

theorem batch (settings : Settings) (config : Option Config) (manifest : LoadedManifest) :
    Yields inv (disk.batch settings config manifest) (still.batch settings config manifest) := by
  refine Yields.bind (Yields.bind ?_ (.pure _)) (.pure _)
  refine yields_inspectAllAsking _ _ _ (fun e => ?_) _
  unfold verifier?
  simp only
  split
  · exact .pure _
  · exact yields_inspectAsking (fun fix => h.compiles _ _) _ _ _ e

theorem loadBatches (settings : Settings) (config : Option Config) (paths : List Path) :
    Yields inv (disk.loadBatches readers settings config paths)
      (still.loadBatches readers settings config paths) := by
  induction paths with
  | nil => exact .pure _
  | cons path paths ih =>
      refine (h.loadManifest path).bind ?_
      split
      · exact .pure _
      · exact (h.batch _ _ _).bind (ih.bind (.pure _))

theorem batches (settings : Settings) (config : Option Config) (paths : List Path) :
    Yields inv (disk.batches readers settings config paths)
      (still.batches readers settings config paths) := by
  refine (h.collectManifests paths).bind ?_
  split
  · exact .pure _
  · exact (h.loadBatches _ _ _).bind (.pure _)

/-- What a check gathers has the outcome that its questions have. -/
theorem gather (options : CheckOptions) :
    Yields inv (disk.gather readers options) (still.gather readers options) := by
  unfold Disk.gather
  split
  · exact .pure _
  · refine (h.startDirectory _).bind ((h.loadConfig _ _).bind ?_)
    split
    · exact .pure _
    · dsimp only
      split
      · exact .pure _
      · exact h.batches _ _ _

end Disk.AnswersAs

namespace Machine

variable {machine : Machine σ} {world world' : World σ} {options : CheckOptions}
  {arguments : List String}

/-- The files and commands of a machine as they are in one of its states. -/
def still (machine : Machine σ) (world : World σ) : Disk Id where
  isFile p := world.tree.isFile p
  isDirectory p := world.tree.isDirectory p
  read p := world.tree.read p
  filesBelow p := .ok (world.tree.filesBelow p)
  confirms v text := ((machine.disk.confirms v text).run world).1

theorem run_eq (machine : Machine σ) (arguments : List String) (world : World σ) :
    machine.run arguments world =
      match machine.readers.request arguments with
      | .error dismissal => .ofDismissal dismissal
      | .ok .explain => .explaining
      | .ok (.check _ options) =>
          .ofReport (.ofGathered options (machine.gather options world)) := by
  unfold run Disk.respond
  cases machine.readers.request arguments with
  | error dismissal => rfl
  | ok request => cases request <;> rfl

theorem run_of_request {named : Bool}
    (h : machine.readers.request arguments = .ok (.check named options)) :
    machine.run arguments world =
      .ofReport (.ofGathered options (machine.gather options world)) := by
  rw [run_eq, h]

namespace IsReliable

variable (h : machine.IsReliable)
include h

/-- As long as the files are the same, a reliable machine answers as in one state. -/
theorem answersAs (world : World σ) :
    machine.disk.AnswersAs (·.tree = world.tree) (machine.still world) where
  isFile p := fun _ hs => ⟨congrArg (·.isFile p) hs, hs⟩
  isDirectory p := fun _ hs => ⟨congrArg (·.isDirectory p) hs, hs⟩
  read p := fun _ hs => ⟨congrArg (·.read p) hs, hs⟩
  filesBelow p := by
    intro s hs
    refine ⟨?_, hs⟩
    show Except.ok (s.tree.filesBelow p) = Except.ok (world.tree.filesBelow p)
    rw [hs]
  confirms v text := fun s hs => ⟨h.answer_eq v text world s hs, (h.tree_eq v text s).trans hs⟩

theorem gather_eq_still (hsame : world'.tree = world.tree) (options : CheckOptions) :
    machine.gather options world' = (machine.still world).gather machine.readers options :=
  ((h.answersAs world).gather options world' hsame).1

/-- Every batch of a check holds the text of its source. -/
theorem read_of_gather {batches : List Batch}
    (hgather : machine.gather options world = .ok batches) :
    ∀ b ∈ batches, world.tree.read b.manifest.sourcePath = .ok b.manifest.source := by
  rw [h.gather_eq_still rfl] at hgather
  exact Disk.read_of_gather hgather

/-- The findings of every batch of a check are those for a manifest that was made of records. -/
theorem exists_records_of_gather {batches : List Batch}
    (hgather : machine.gather options world = .ok batches) :
    ∀ b ∈ batches,
      (∃ records, LoadedManifest.ofRecords b.manifest.sourcePath b.manifest.source records =
        .ok b.manifest) ∧
      ∃ settings compiles, b.findings = b.manifest.findings settings compiles := by
  rw [h.gather_eq_still rfl] at hgather
  exact Disk.exists_records_of_gather hgather

/-- **The program changes files by what it writes alone.** -/
theorem tree_afterRun (arguments : List String) (world : World σ) :
    (machine.afterRun arguments world).tree =
      world.tree.writeAll (machine.run arguments world).writes := by
  have hkept :
      ((machine.disk.respond machine.readers arguments).run world).2.tree = world.tree := by
    unfold Disk.respond
    cases machine.readers.request arguments with
    | error dismissal => rfl
    | ok request =>
        cases request with
        | explain => rfl
        | check named options => exact ((h.answersAs world).gather options world rfl).2
  rw [← hkept]
  rfl

/-- A run that has nothing to write leaves the files as they were. -/
theorem tree_afterRun_of_writes_nil (hnil : (machine.run arguments world).writes = []) :
    (machine.afterRun arguments world).tree = world.tree := by
  rw [h.tree_afterRun, hnil]
  rfl

end IsReliable

/-- A machine with the standard readers whose only command is `true`. Its state counts the
directories that it has made. -/
def counting : Machine Nat where
  readers := .standard
  commands.newDirectory := modifyGet fun world =>
    (some ⟨"/tmp/" ++ toString world.rest⟩, { world with rest := world.rest + 1 })
  commands.run trial := return if trial.program = "true" then some ⟨true, 0⟩ else none
  commands.removeDirectory _ := return ()

/-- A command that always succeeds can be relied on, although no two of its runs are alike. -/
theorem isReliable_counting : counting.IsReliable := by
  constructor
  · intro v text world
    show ((v.confirms counting.commands text).run world).2.tree = world.tree
    unfold Verification.confirms Verification.trial?
    cases v.command <;> rfl
  · intro v text world world' _
    show ((v.confirms counting.commands text).run world').1 =
      ((v.confirms counting.commands text).run world).1
    unfold Verification.confirms Verification.trial?
    cases v.command <;> rfl

end Machine

end CallMigration
