import CallMigration.Check
import CallMigration.Proofs.Manifest.Asking
import CallMigration.Proofs.Manifest.Record

/-!
# What a check is about

The batches of a check come from manifests that were loaded one after the other
(`Disk.exists_loaded_of_gather`). Each holds the text that was read at the path of its source
(`Disk.read_of_gather`), and its call sites were made of records (`Disk.exists_records_of_gather`).
This is said of disks that answer at once.
-/

namespace CallMigration

namespace Disk

variable {disk : Disk Id} {readers : Readers} {batches : List Batch} {settings : Settings}
  {config : Option Config}

/-- A loaded manifest holds the text of the source that it names, and was made of records for it. -/
theorem loadManifest_parts {path : Path} {m : LoadedManifest}
    (h : disk.loadManifest readers path = .ok m) :
    disk.read m.sourcePath = .ok m.source ∧
      ∃ records, LoadedManifest.ofRecords m.sourcePath m.source records = .ok m := by
  simp only [loadManifest, bind, pure] at h
  split at h
  · cases h
  · split at h
    · cases h
    · next manifest _ =>
        split at h
        · cases h
        · next source hsource =>
            have hmade := eq_ok_of_mapError h
            obtain ⟨hpath, hheld, -⟩ := LoadedManifest.exists_record hmade
            rw [hpath, hheld]
            exact ⟨hsource, manifest.records, hmade⟩

/-- A batch is made of a manifest and the findings for it. -/
theorem exists_batch_eq (disk : Disk Id) (settings : Settings) (config : Option Config)
    (m : LoadedManifest) :
    ∃ compiles, disk.batch settings config m = ⟨m, m.findings settings compiles⟩ :=
  ⟨_, congrArg (Batch.mk m) (m.findingsAsking_eq settings _)⟩

/-- The manifest of every batch is loaded from one of the paths. -/
theorem exists_path_of_loadBatches {paths : List Path}
    (h : disk.loadBatches readers settings config paths = .ok batches) :
    ∀ b ∈ batches, (∃ path ∈ paths, disk.loadManifest readers path = .ok b.manifest) ∧
      ∃ compiles, b.findings = b.manifest.findings settings compiles := by
  induction paths generalizing batches with
  | nil =>
      cases h
      simp
  | cons path paths ih =>
      simp only [loadBatches, bind, pure] at h
      split at h
      · cases h
      · next m hload =>
          obtain ⟨rest, hrest, rfl⟩ := exists_of_map_eq_ok h
          obtain ⟨compiles, hbatch⟩ := exists_batch_eq disk settings config m
          refine List.forall_mem_cons.mpr ⟨?_, fun b hb => ?_⟩
          · rw [hbatch]
            exact ⟨⟨path, List.mem_cons_self, hload⟩, compiles, rfl⟩
          · obtain ⟨⟨path', hpath', hload'⟩, hfindings⟩ := ih hrest b hb
            exact ⟨⟨path', List.mem_cons_of_mem _ hpath', hload'⟩, hfindings⟩

/-- The batches of a check are those of the manifests that its paths stand for, in order. -/
theorem exists_loaded_of_gather {options : CheckOptions}
    (h : disk.gather readers options = .ok batches) :
    ∃ manifests settings config, disk.collectManifests options.paths = .ok manifests ∧
      disk.loadBatches readers settings config manifests = .ok batches := by
  simp only [gather, Disk.batches, bind, pure] at h
  split at h
  · cases h
  · split at h
    · cases h
    · split at h
      · cases h
      · next settings _ =>
          split at h
          · cases h
          · next manifests hmanifests =>
              exact ⟨manifests, settings, _, hmanifests, eq_ok_of_mapError h⟩

/-- Every batch of a check holds the text of its source. -/
theorem read_of_gather {options : CheckOptions} (h : disk.gather readers options = .ok batches) :
    ∀ b ∈ batches, disk.read b.manifest.sourcePath = .ok b.manifest.source := by
  obtain ⟨manifests, settings, config, -, hloaded⟩ := exists_loaded_of_gather h
  intro b hb
  obtain ⟨⟨path, -, hload⟩, -⟩ := exists_path_of_loadBatches hloaded b hb
  exact (loadManifest_parts hload).1

/-- The findings of every batch of a check are those for a manifest that was made of records. -/
theorem exists_records_of_gather {options : CheckOptions}
    (h : disk.gather readers options = .ok batches) :
    ∀ b ∈ batches,
      (∃ records, LoadedManifest.ofRecords b.manifest.sourcePath b.manifest.source records =
        .ok b.manifest) ∧
      ∃ settings compiles, b.findings = b.manifest.findings settings compiles := by
  obtain ⟨manifests, settings, config, -, hloaded⟩ := exists_loaded_of_gather h
  intro b hb
  obtain ⟨⟨path, -, hload⟩, compiles, hfindings⟩ := exists_path_of_loadBatches hloaded b hb
  exact ⟨(loadManifest_parts hload).2, settings, compiles, hfindings⟩

end Disk

end CallMigration
