import CallMigration.Proofs.Inlining

/-!
# Asking while findings are made

An inspection depends on what compiles only through the answer to its one question
(`LoadedManifest.inspect_eq_answered`). So a manifest whose verifier is asked on the way has the
findings that it has for the answers known beforehand (`LoadedManifest.findingsAsking_eq`).
-/

namespace CallMigration

namespace LoadedManifest

variable {m : LoadedManifest} {table : ImportTable} {settings : Settings} {e : ManifestEntry}
  {compiles : Fix → Bool}

/-- Which fixes are asked about does not depend on the answers. -/
theorem mem_compileQueries_congr (compiles compiles' : Fix → Bool) {fix : Fix} :
    fix ∈ (m.inspect table settings (some compiles) e).compileQueries ↔
      fix ∈ (m.inspect table settings (some compiles') e).compileQueries := by
  rw [(inspectedAs_inspect m table settings (some compiles) e).mem_compileQueries_iff,
    (inspectedAs_inspect m table settings (some compiles') e).mem_compileQueries_iff]
  rfl

/-- An inspection is what it is for the answer to its question. -/
theorem inspect_eq_answered {answer : Bool}
    (h : ∀ fix ∈ (m.inspect table settings (some fun _ => true) e).compileQueries,
      compiles fix = answer) :
    m.inspect table settings (some compiles) e =
      m.inspect table settings (some fun _ => answer) e := by
  have hinspected := inspectedAs_inspect m table settings (some fun _ => answer) e
  have hagree : Collaborators.AgreeOn ⟨m.hasSideEffect, some fun _ => answer⟩
      ⟨m.hasSideEffect, some compiles⟩ (m.inspect table settings (some fun _ => answer) e) := by
    refine ⟨fun _ _ => rfl, fun fix hfix => ?_, fun hunavailable => ?_⟩
    · have hasked := (mem_compileQueries_congr (fun _ => answer) (fun _ => true)).mp hfix
      simp [h fix hasked]
    · cases hinspected.compiles_eq_none hunavailable
  exact (hinspected.congr hagree).inline_eq

/-- Asking somebody who answers at once comes to the same as knowing the answers. -/
theorem inspectAsking_eq (m : LoadedManifest) (table : ImportTable) (settings : Settings)
    (compiles : Option (Fix → Id Bool)) (e : ManifestEntry) :
    Id.run (m.inspectAsking table settings compiles e) = m.inspect table settings compiles e := by
  cases compiles with
  | none => rfl
  | some compiles =>
      have hone :=
        (inspectedAs_inspect m table settings (some fun _ => true) e).length_queries.2
      unfold inspectAsking
      simp only
      split
      · next hnone => exact (inspect_eq_answered (by simp [hnone])).symm
      · next fix rest hasked =>
          refine (inspect_eq_answered fun fix' hfix' => ?_).symm
          rw [hasked, List.length_cons] at hone
          obtain rfl := List.length_eq_zero_iff.mp (Nat.le_zero.mp (Nat.le_of_succ_le_succ hone))
          rw [hasked, List.mem_singleton] at hfix'
          rw [hfix']

theorem inspectAllAsking_eq (m : LoadedManifest) (table : ImportTable) (settings : Settings)
    (compiles : Option (Fix → Id Bool)) (entries : List ManifestEntry) :
    Id.run (m.inspectAllAsking table settings compiles entries) =
      entries.map (m.inspect table settings compiles) := by
  induction entries with
  | nil => rfl
  | cons e entries ih =>
      rw [List.map_cons, ← ih, ← inspectAsking_eq]
      rfl

/-- **Asking on the way changes nothing.** The findings for a manifest are the same, whether the
answers about what compiles are known beforehand or asked for. -/
theorem findingsAsking_eq (m : LoadedManifest) (settings : Settings)
    (compiles : Option (Fix → Id Bool)) :
    Id.run (m.findingsAsking settings compiles) = m.findings settings compiles := by
  have hfound : m.findings settings compiles =
      (m.entries.map (m.inspect (.ofSource m.source) settings compiles)).filterMap fun inspection =>
        inspection.verdict.finding?.map (·.located m.sourcePath.text m.source) := by
    rw [List.filterMap_map]
    rfl
  rw [hfound, ← inspectAllAsking_eq]
  rfl

end LoadedManifest

end CallMigration
