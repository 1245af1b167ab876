import CallMigration.Check
import CallMigration.Proofs.Diff.Patch
import CallMigration.Proofs.Finding.Application

/-!
# Fixing batches one after the other

Fixing is a run over the batches in which every batch that can be fixed is one step, also a batch
without findings, which adds nothing (`Revision.ofBatches_cons`). So batches are fixed to the end
exactly if each of them can be fixed (`Revision.exists_ofBatches`), and else up to the first that
cannot (`Revision.ofBatches_eq_some`).
-/

namespace CallMigration

namespace Diff

/-- Between a text and itself there is no difference to be shown. -/
theorem unified_self (text : String) (path : Path) (context : Nat) :
    unified text text path context = "" := by
  have hnone : (Script.ofLines (linesOf text) (linesOf text)).changes = [] :=
    Script.changes_ofLines_eq_nil_iff.mpr rfl
  have hhunks : Hunk.ofScript context (Script.ofLines (linesOf text) (linesOf text)) = [] := by
    rw [Hunk.ofScript, hnone]
    rfl
  simp [unified, Script.unifiedLines, hhunks, String.join]

end Diff

/-- A batch without findings leaves its source as it is. -/
theorem Batch.fixed_of_findings_nil {b : Batch} (h : b.findings = []) :
    b.fixed = .ok ⟨b.manifest.source, 0, 0⟩ := by
  rw [fixed, h, Finding.applyAll_nil]

namespace Revision

variable {r r' : Revision} {b : Batch} {done batches : List Batch} {fixed : FixedSource}
  {cause : EditError}

/-- A source that is left as it is adds nothing. -/
theorem add_same (r : Revision) (m : LoadedManifest) : r.add m ⟨m.source, 0, 0⟩ = r := by
  simp [add, Diff.unified_self]

/-- A batch that can be fixed is one step. -/
theorem ofBatches_cons (h : b.fixed = .ok fixed) (batches : List Batch) :
    r.ofBatches (b :: batches) = (r.add b.manifest fixed).ofBatches batches := by
  rw [ofBatches]
  by_cases hempty : b.findings.isEmpty
  · have hsame := Batch.fixed_of_findings_nil (List.isEmpty_iff.mp hempty)
    rw [h] at hsame
    rw [if_pos hempty, Except.ok.inj hsame, add_same]
  · rw [if_neg hempty, h]

/-- A batch that cannot be fixed is the last step. -/
theorem ofBatches_cons_of_error (h : b.fixed = .error cause) (batches : List Batch) :
    r.ofBatches (b :: batches) = (r, some cause) := by
  have hfindings : ¬ b.findings.isEmpty := by
    intro hempty
    rw [Batch.fixed_of_findings_nil (List.isEmpty_iff.mp hempty)] at h
    cases h
  rw [ofBatches, if_neg hfindings, h]

/-- Behind batches that can be fixed, fixing goes on with the next ones. -/
theorem ofBatches_append (h : r.ofBatches done = (r', Option.none)) (more : List Batch) :
    r.ofBatches (done ++ more) = r'.ofBatches more := by
  induction done generalizing r with
  | nil =>
      cases h
      rfl
  | cons b done ih =>
      cases hb : b.fixed with
      | error cause =>
          rw [ofBatches_cons_of_error hb] at h
          cases h
      | ok fixed =>
          rw [ofBatches_cons hb] at h
          rw [List.cons_append, ofBatches_cons hb]
          exact ih h

/-- Batches that can be fixed one by one are fixed to the end. -/
theorem exists_ofBatches (r : Revision) (h : ∀ b ∈ batches, ∃ fixed, b.fixed = .ok fixed) :
    ∃ r', r.ofBatches batches = (r', Option.none) := by
  induction batches generalizing r with
  | nil => exact ⟨r, rfl⟩
  | cons b batches ih =>
      obtain ⟨⟨fixed, hb⟩, hrest⟩ := List.forall_mem_cons.mp h
      rw [ofBatches_cons hb]
      exact ih _ hrest

/-- **Fixing stops at the first batch that cannot be fixed.** Those before it have been fixed. -/
theorem ofBatches_eq_some (h : r.ofBatches batches = (r', some cause)) :
    ∃ done b rest, batches = done ++ b :: rest ∧ r.ofBatches done = (r', Option.none) ∧
      b.fixed = .error cause := by
  induction batches generalizing r with
  | nil => cases h
  | cons b batches ih =>
      cases hb : b.fixed with
      | error other =>
          rw [ofBatches_cons_of_error hb] at h
          cases h
          exact ⟨[], b, batches, rfl, rfl, hb⟩
      | ok fixed =>
          rw [ofBatches_cons hb] at h
          obtain ⟨done, stop, rest, rfl, hdone, hstop⟩ := ih h
          exact ⟨b :: done, stop, rest, rfl, (ofBatches_cons hb done).trans hdone, hstop⟩

end Revision

end CallMigration
