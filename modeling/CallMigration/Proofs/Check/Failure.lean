import CallMigration.Proofs.Check
import CallMigration.Proofs.Manifest.Validity

/-!
# What a failed run leaves behind

A run fails before it has written anything, save in one way: a check that changes sources stops at a
batch that cannot be fixed, when the batches before it have been written (`Machine.StopsAt`).

* `Machine.StopsAt.run_eq`: what the program then says and has written;
* `Machine.StopsAt.deletes`: a batch that cannot be fixed deletes a statement whose range is none of
  its source;
* `Machine.text?_afterRun_of_failure`: which files a failed run has changed.
-/

namespace CallMigration

namespace Machine

variable {σ : Type} {machine : Machine σ} {world : World σ} {arguments : List String}
  {done : List Batch} {b : Batch} {cause : EditError}

/-- Whether a run is to change sources and stops at a batch that cannot be fixed, when those before
it have been fixed. -/
def StopsAt (machine : Machine σ) (arguments : List String) (world : World σ) (done : List Batch)
    (b : Batch) (cause : EditError) : Prop :=
  ∃ named options rest, machine.readers.request arguments = .ok (.check named options) ∧
    options.fix = true ∧ options.diff = false ∧
    machine.gather options world = .ok (done ++ b :: rest) ∧
    (∀ d ∈ done, ∃ fixed, d.fixed = .ok fixed) ∧ b.fixed = .error cause

namespace StopsAt

/-- **What is written before a run stops.** It is what the batches before make of their sources;
then the cause is named. -/
theorem run_eq (h : machine.StopsAt arguments world done b cause) :
    machine.run arguments world =
      ⟨2, "", cause.message ++ "\n", done.filterMap Batch.written?⟩ := by
  obtain ⟨named, options, rest, hrequest, hfix, hdiff, hgather, hdone, hb⟩ := h
  obtain ⟨r, hr⟩ := Revision.exists_ofBatches .none hdone
  have hstops : Revision.none.ofBatches (done ++ b :: rest) = (r, some cause) := by
    rw [Revision.ofBatches_append hr, Revision.ofBatches_cons_of_error hb]
  obtain ⟨-, hwrites, -⟩ := Revision.ofBatches_eq_none hr
  rw [run_of_request hrequest, hgather, Report.ofGathered,
    Report.ofBatches_of_stopped (by simp [hfix]) hstops, hdiff, hwrites]
  simp [Response.ofReport, Report.exitCode, Report.messages, Conclusion.exitCode,
    CheckError.message, Revision.none]

section Reliable

variable (h : machine.StopsAt arguments world done b cause) (hreliable : machine.IsReliable)
include h hreliable

theorem read_of_mem :
    ∀ d ∈ done, world.tree.read d.manifest.sourcePath = .ok d.manifest.source := by
  obtain ⟨named, options, rest, -, -, -, hgather, -, -⟩ := h
  intro d hd
  exact hreliable.read_of_gather hgather d (List.mem_append_left _ hd)

/-- Of the results for one file that were written before a run stopped, the last one stays. -/
theorem text?_afterRun (location : Location) :
    (machine.afterRun arguments world).tree.text? location = (world.tree.text? location).map
      (((Batch.about world.tree location done).filterMap Batch.revised?).getLast?.getD ·) := by
  rw [hreliable.tree_afterRun, h.run_eq,
    FileTree.text?_writeAll_revised (h.read_of_mem hreliable) location]

/-- **Only a deletion stops a run.** The batch at which it stops deletes a statement whose range is
none of the source, and that is the cause that is named. -/
theorem deletes :
    ∃ before f after statement, b.findings = before ++ f :: after ∧
      (∀ g ∈ before, g.edit.validate b.manifest.source = .ok ()) ∧ f.Deletes statement ∧
      statement.slice? b.manifest.source = none ∧
      cause = Edit.misfit b.manifest.source statement := by
  obtain ⟨named, options, rest, -, -, -, hgather, -, hb⟩ := h
  obtain ⟨⟨records, hmade⟩, settings, compiles, hfindings⟩ :=
    hreliable.exists_records_of_gather hgather b (by simp)
  obtain ⟨before, f, after, hsplit, hbefore, hinvalid⟩ := Finding.applyAll_eq_error_iff_first.mp hb
  have hf : f ∈ b.manifest.findings settings compiles := by
    rw [← hfindings, hsplit]
    simp
  rcases LoadedManifest.validate_or_deletes hmade hf with
    hvalid | ⟨-, -, statement, -, -, -, hdeletes⟩
  · rw [hvalid] at hinvalid
    cases hinvalid
  · have hslice : statement.slice? b.manifest.source = none := by
      rw [← Option.not_isSome_iff_eq_none, ← hdeletes.validate_eq_ok_iff, hinvalid]
      simp
    have hmisfit := LoadedManifest.validate_of_deletes hmade hf hdeletes hslice
    rw [hinvalid] at hmisfit
    exact ⟨before, f, after, statement, hsplit, hbefore, hdeletes, hslice,
      Except.error.inj hmisfit⟩

end Reliable

end StopsAt

/-- A run that fails has nothing to write, unless it stops at a batch. -/
theorem writes_of_failure (hexit : (machine.run arguments world).exitCode = 2) :
    (machine.run arguments world).writes = [] ∨
      ∃ done b cause, machine.StopsAt arguments world done b cause := by
  cases hrequest : machine.readers.request arguments with
  | error dismissal =>
      left
      rw [run_eq, hrequest]
      cases dismissal <;> rfl
  | ok request =>
      cases request with
      | explain =>
          rw [run_eq, hrequest] at hexit
          cases hexit
      | check named options =>
          rw [run_of_request hrequest] at hexit ⊢
          cases hgather : machine.gather options world with
          | error cause =>
              left
              rfl
          | ok batches =>
              rw [hgather] at hexit
              obtain ⟨hrevises, r, cause, hrevision⟩ := Report.exists_stopped_of_exitCode hexit
              cases hdiff : options.diff with
              | true =>
                  left
                  rw [Report.ofGathered, Report.ofBatches_of_stopped hrevises hrevision, hdiff]
                  rfl
              | false =>
                  right
                  obtain ⟨done, b, rest, rfl, hdone, hb⟩ := Revision.ofBatches_eq_some hrevision
                  have hfix : options.fix = true := by simpa [hdiff] using hrevises
                  exact ⟨done, b, cause, named, options, rest, hrequest, hfix, hdiff, hgather,
                    (Revision.ofBatches_eq_none hdone).1, hb⟩

/-- **What a failed run changes.** A run that fails leaves every file as it was, unless it stops at
a batch that cannot be fixed and a batch before it has changed a file. It stops only where a
statement is to be deleted whose range is none of the source; then each file holds the last of the
results that were written before, if there is one. -/
theorem text?_afterRun_of_failure (hreliable : machine.IsReliable)
    (hexit : (machine.run arguments world).exitCode = 2) :
    ((∀ location, (machine.afterRun arguments world).tree.text? location =
        world.tree.text? location) ↔
      ∀ done b cause, machine.StopsAt arguments world done b cause → ∀ d ∈ done,
        ∀ location ∈ world.tree.location? d.manifest.sourcePath, d.revised? = none) ∧
    ∀ done b cause, machine.StopsAt arguments world done b cause →
      (∃ before f after statement, b.findings = before ++ f :: after ∧
        (∀ g ∈ before, g.edit.validate b.manifest.source = .ok ()) ∧ f.Deletes statement ∧
        statement.slice? b.manifest.source = none ∧
        (machine.run arguments world).messages =
          (Edit.misfit b.manifest.source statement).message ++ "\n") ∧
      ∀ location, (machine.afterRun arguments world).tree.text? location =
        (world.tree.text? location).map
          (((Batch.about world.tree location done).filterMap Batch.revised?).getLast?.getD ·) := by
  refine ⟨⟨?changed, ?unchanged⟩, ?stops⟩
  case changed =>
    intro hsame done b cause hstops d hd location hlocation
    have hread := hstops.read_of_mem hreliable
    have hheld := FileTree.text?_of_read (hread d hd) location hlocation
    have hstays := hstops.text?_afterRun hreliable location
    rw [hsame location, hheld, Option.map_some] at hstays
    cases hlast :
        ((Batch.about world.tree location done).filterMap Batch.revised?).getLast? with
    | none =>
        have hnone := List.filterMap_eq_nil_iff.mp (List.getLast?_eq_none_iff.mp hlast)
        exact hnone d (List.mem_filter.mpr ⟨hd, beq_iff_eq.mpr hlocation⟩)
    | some text =>
        -- The last result differs from the text of its own source, which is the same file.
        obtain ⟨last, hmem, htext⟩ := List.mem_filterMap.mp (List.mem_of_getLast? hlast)
        have hown := (FileTree.text?_of_mem_about hread hmem).2
        rw [hheld] at hown
        rw [hlast, Option.getD_some] at hstays
        have hsource : text = last.manifest.source := by
          rw [← Option.some.inj hstays, Option.some.inj hown]
        exact absurd hsource (Batch.ne_source_of_revised? htext)
  case unchanged =>
    intro hnone location
    rcases writes_of_failure hexit with hwrites | ⟨done, b, cause, hstops⟩
    · rw [hreliable.tree_afterRun_of_writes_nil hwrites]
    · have hempty : (Batch.about world.tree location done).filterMap Batch.revised? = [] := by
        refine List.filterMap_eq_nil_iff.mpr fun d hd => ?_
        obtain ⟨hmem, hlocation⟩ := List.mem_filter.mp hd
        exact hnone done b cause hstops d hmem location (beq_iff_eq.mp hlocation)
      rw [hstops.text?_afterRun hreliable, hempty]
      simp
  case stops =>
    intro done b cause hstops
    obtain ⟨before, f, after, statement, hsplit, hbefore, hdeletes, hslice, rfl⟩ :=
      hstops.deletes hreliable
    refine ⟨⟨before, f, after, statement, hsplit, hbefore, hdeletes, hslice, ?_⟩,
      hstops.text?_afterRun hreliable⟩
    rw [hstops.run_eq]

/-- Two sources with a call each. The statement of the second call is recorded to end after its
source. -/
def overlongStatement : FileTree where
  place := ["work"]
  files :=
    [(["work", "A.java"], .text "class A \x7b void m() \x7b x.f(); \x7d \x7d\n"),
     (["work", "B.java"], .text "class B \x7b void m() \x7b y.g(); \x7d \x7d\n"),
     (["work", "a.inlineme.json"], .text
      "[\"A.java\",[[[\"W\",\"f\",\"\"],[[\"this.open()\"]],\"method\",[21,26],[21,22]]]]"),
     (["work", "b.inlineme.json"], .text <|
      "[\"B.java\",[[[\"W\",\"g\",\"\"],[[\"this\"]],\"method\",[21,26],[21,22]," ++
        "null,null,[],[21,99]]]]")]
  directories := []

theorem run_overlongStatement :
    counting.run ["--fix", "."] ⟨overlongStatement, 0⟩ =
      ⟨2, "", "Edit range [21..99) exceeds source length 32\n",
        [(⟨"./A.java"⟩, "class A \x7b void m() \x7b x.open(); \x7d \x7d\n")]⟩ := by
  decide +kernel

theorem text?_afterRun_overlongStatement :
    (counting.afterRun ["--fix", "."] ⟨overlongStatement, 0⟩).tree.text? ["work", "A.java"] =
      some "class A \x7b void m() \x7b x.open(); \x7d \x7d\n" := by
  rw [isReliable_counting.tree_afterRun, run_overlongStatement]
  decide +kernel

/-- The run fails, and the first source has been changed. -/
theorem file_changed_overlongStatement :
    (counting.run ["--fix", "."] ⟨overlongStatement, 0⟩).exitCode = 2 ∧
      (counting.afterRun ["--fix", "."] ⟨overlongStatement, 0⟩).tree.text? ["work", "A.java"] ≠
        overlongStatement.text? ["work", "A.java"] := by
  refine ⟨by rw [run_overlongStatement], ?_⟩
  rw [text?_afterRun_overlongStatement]
  decide +kernel

/-- It has stopped behind a batch that changes its source. -/
theorem text?_afterRun_of_failure_overlongStatement :
    (counting.run ["--fix", "."] ⟨overlongStatement, 0⟩).exitCode = 2 ∧
      ∃ done b cause, counting.StopsAt ["--fix", "."] ⟨overlongStatement, 0⟩ done b cause ∧
        ∃ d ∈ done, ∃ location ∈ overlongStatement.location? d.manifest.sourcePath,
          d.revised? ≠ none := by
  have hexit : (counting.run ["--fix", "."] ⟨overlongStatement, 0⟩).exitCode = 2 := by
    rw [run_overlongStatement]
  refine ⟨hexit, ?_⟩
  by_contra hnone
  push Not at hnone
  have hsame :=
    (text?_afterRun_of_failure isReliable_counting hexit).1.mpr hnone ["work", "A.java"]
  rw [text?_afterRun_overlongStatement] at hsame
  exact absurd hsame (by decide +kernel)

end Machine

end CallMigration
