import CallMigration.Proofs.Check.Revision
import CallMigration.Proofs.FileTree
import CallMigration.Proofs.Machine
import CallMigration.Proofs.Options
import Mathlib.Algebra.GroupWithZero.Nat

/-!
# What a check leaves behind

A check that changes sources fixes each batch on the text that was read before anything was written,
and then writes the results one after the other. Where several manifests name one source, the last
result that differs from the source stays, and the fixes of the others are lost, although they are
counted as applied (`Machine.text?_afterRun_of_success`). Nothing is lost where the findings of all
manifests for a source ask for the same fixes, as where there is but one such manifest.
-/

namespace CallMigration

namespace Batch

/-- The text that fixing changes the source to, if it changes it. -/
def revised? (b : Batch) : Option String :=
  match b.fixed with
  | .error _ => none
  | .ok fixed => if fixed.source = b.manifest.source then none else some fixed.source

/-- The text that a batch writes, behind the path that it is written to. -/
def written? (b : Batch) : Option (Path × String) :=
  b.revised?.map fun text => (b.manifest.sourcePath, text)

/-- How many fixes of a batch are counted as applied. -/
def counted (b : Batch) : Nat :=
  match b.fixed with
  | .error _ => 0
  | .ok fixed => fixed.applied

/-- The batches whose source is the file at a location. -/
def about (tree : FileTree) (location : Location) (batches : List Batch) : List Batch :=
  batches.filter fun b => tree.location? b.manifest.sourcePath == some location

variable {b : Batch} {fixed : FixedSource}

theorem revised?_of_fixed (h : b.fixed = .ok fixed) :
    b.revised? = if fixed.source = b.manifest.source then none else some fixed.source := by
  rw [revised?, h]

theorem counted_of_fixed (h : b.fixed = .ok fixed) : b.counted = fixed.applied := by
  rw [counted, h]

/-- A batch that changes its source has findings, and they can be applied. -/
theorem fixed_of_revised? {text : String} (h : b.revised? = some text) :
    b.findings ≠ [] ∧ ∃ fixed, b.fixed = .ok fixed ∧ fixed.source = text := by
  cases hfixed : b.fixed with
  | error cause =>
      rw [revised?, hfixed] at h
      cases h
  | ok fixed =>
      rw [revised?_of_fixed hfixed] at h
      split at h
      · cases h
      · next hchanged =>
          refine ⟨fun hnil => hchanged ?_, fixed, rfl, Option.some.inj h⟩
          rw [fixed_of_findings_nil hnil] at hfixed
          rw [← Except.ok.inj hfixed]

theorem ne_source_of_revised? {text : String} (h : b.revised? = some text) :
    text ≠ b.manifest.source := by
  obtain ⟨-, fixed, hfixed, rfl⟩ := fixed_of_revised? h
  rw [revised?_of_fixed hfixed] at h
  intro hsame
  rw [if_pos hsame] at h
  cases h

/-- A batch that does not change its source leaves it as it is. -/
theorem source_of_revised?_eq_none (h : b.revised? = none) (hfixed : b.fixed = .ok fixed) :
    fixed.source = b.manifest.source := by
  rw [revised?_of_fixed hfixed] at h
  split at h
  · next hsame => exact hsame
  · cases h

section OneSource

variable {namers : List Batch} {original : String}

/-- Batches about one source that ask for the same fixes, apart from batches that ask for none, all
make of it what their findings make of it together. -/
theorem source_fixed_eq {fixes : List Fix} (hsource : ∀ b ∈ namers, b.manifest.source = original)
    (hsame : ∀ b ∈ namers, b.findings = [] ∨ b.findings.map (·.fix) = fixes)
    {together : FixedSource}
    (htogether : Finding.applyAll original (namers.flatMap (·.findings)) = .ok together)
    (hb : b ∈ namers) (hne : b.findings ≠ []) (hfixed : b.fixed = .ok fixed) :
    together.source = fixed.source := by
  have hgroups : ∀ group ∈ namers.map (·.findings), group = [] ∨ group.map Finding.fix = fixes :=
    List.forall_mem_map.mpr hsame
  rw [Batch.fixed, hsource b hb] at hfixed
  rw [List.flatMap_def] at htogether
  exact Finding.source_applyAll_flatten hgroups (List.mem_map_of_mem hb) hne hfixed htogether

/-- The last of the texts that such batches change their source to is the one that their findings
make of it together. -/
theorem exists_applyAll_flatMap {fixes : List Fix}
    (hsource : ∀ b ∈ namers, b.manifest.source = original)
    (hfixed : ∀ b ∈ namers, ∃ fixed, b.fixed = .ok fixed)
    (hsame : ∀ b ∈ namers, b.findings = [] ∨ b.findings.map (·.fix) = fixes) :
    ∃ together, Finding.applyAll original (namers.flatMap (·.findings)) = .ok together ∧
      (namers.filterMap revised?).getLast?.getD original = together.source := by
  have hvalid : ∀ f ∈ namers.flatMap (·.findings), f.edit.validate original = .ok () := by
    intro f hf
    obtain ⟨b, hb, hfb⟩ := List.mem_flatMap.mp hf
    obtain ⟨fixed, happly⟩ := hfixed b hb
    rw [← hsource b hb]
    exact Finding.validate_of_applyAll happly f hfb
  obtain ⟨together, htogether⟩ : ∃ together,
      Finding.applyAll original (namers.flatMap (·.findings)) = .ok together :=
    ⟨_, Finding.applyAll_of_valid hvalid⟩
  refine ⟨together, htogether, ?_⟩
  cases hlast : (namers.filterMap revised?).getLast? with
  | some text =>
      obtain ⟨b, hb, htext⟩ := List.mem_filterMap.mp (List.mem_of_getLast? hlast)
      obtain ⟨hne, fixed, happly, rfl⟩ := fixed_of_revised? htext
      exact (source_fixed_eq hsource hsame htogether hb hne happly).symm
  | none =>
      have hnone := List.filterMap_eq_nil_iff.mp (List.getLast?_eq_none_iff.mp hlast)
      by_cases hempty : ∀ b ∈ namers, b.findings = []
      · rw [List.flatMap_eq_nil_iff.mpr hempty, Finding.applyAll_nil] at htogether
        rw [← Except.ok.inj htogether]
        rfl
      · push Not at hempty
        obtain ⟨b, hb, hne⟩ := hempty
        obtain ⟨fixed, happly⟩ := hfixed b hb
        rw [source_fixed_eq hsource hsame htogether hb hne happly,
          source_of_revised?_eq_none (hnone b hb) happly, hsource b hb]
        rfl

end OneSource

end Batch

namespace Revision

/-- Fixing batches to the end fixes each of them on its own: the changed sources are written in
order, and the fixes are counted together. -/
theorem ofBatches_eq_none {r r' : Revision} {batches : List Batch}
    (h : r.ofBatches batches = (r', Option.none)) :
    (∀ b ∈ batches, ∃ fixed, b.fixed = .ok fixed) ∧
      r'.writes = r.writes ++ batches.filterMap Batch.written? ∧
      r'.applied = r.applied + (batches.map Batch.counted).sum := by
  induction batches generalizing r with
  | nil =>
      cases h
      simp
  | cons b batches ih =>
      cases hb : b.fixed with
      | error cause =>
          rw [ofBatches_cons_of_error hb] at h
          cases h
      | ok fixed =>
          rw [ofBatches_cons hb] at h
          obtain ⟨hfixed, hwrites, happlied⟩ := ih h
          refine ⟨List.forall_mem_cons.mpr ⟨⟨_, hb⟩, hfixed⟩, ?_, ?_⟩
          · rw [hwrites, List.filterMap_cons, Batch.written?, Batch.revised?_of_fixed hb]
            unfold add
            split <;> simp
          · simp only [happlied, add, List.map_cons, List.sum_cons, Batch.counted_of_fixed hb]
            omega

end Revision

namespace Report

variable {options : CheckOptions} {batches : List Batch} {r : Revision} {cause : EditError}

theorem exitCode_conclude (options : CheckOptions) (hasFindings : Bool) :
    (conclude options hasFindings).exitCode =
      if options.denyWarnings && hasFindings then 1 else 0 := by
  unfold conclude
  split <;> rfl

/-- The report on batches that are fixed to the end. -/
theorem ofBatches_of_fixed (hrevises : (options.fix || options.diff) = true)
    (h : Revision.none.ofBatches batches = (r, none)) :
    ofBatches options batches =
      ⟨if options.diff then r.diff else "", if options.diff then r.diffNote else r.fixNote,
        if options.diff then [] else r.writes, conclude options (0 < r.applied + r.deferred)⟩ := by
  rw [ofBatches, if_pos hrevises, h, ofRevision]
  cases options.diff <;> rfl

/-- The report on batches of which one cannot be fixed. -/
theorem ofBatches_of_stopped (hrevises : (options.fix || options.diff) = true)
    (h : Revision.none.ofBatches batches = (r, some cause)) :
    ofBatches options batches =
      ⟨if options.diff then r.diff else "", "", if options.diff then [] else r.writes,
        .failed (.edit cause)⟩ := by
  rw [ofBatches, if_pos hrevises, h, ofRevision]
  cases options.diff <;> rfl

/-- A report on batches tells of a failure only where one of them cannot be fixed. -/
theorem exists_stopped_of_exitCode (hexit : (ofBatches options batches).exitCode = 2) :
    (options.fix || options.diff) = true ∧
      ∃ r cause, Revision.none.ofBatches batches = (r, some cause) := by
  have hconcluded : ∀ hasFindings, (conclude options hasFindings).exitCode ≠ 2 := by
    intro hasFindings
    rw [exitCode_conclude]
    split <;> decide
  by_cases hrevises : (options.fix || options.diff) = true
  · refine ⟨hrevises, ?_⟩
    cases hrevision : Revision.none.ofBatches batches with
    | mk r stopped =>
        cases stopped with
        | none =>
            rw [ofBatches_of_fixed hrevises hrevision] at hexit
            exact absurd hexit (hconcluded _)
        | some cause => exact ⟨r, cause, rfl⟩
  · rw [ofBatches, if_neg hrevises] at hexit
    exact absurd hexit (hconcluded _)

/-- Only a failure adds to what is said besides. -/
theorem messages_conclude (options : CheckOptions) (hasFindings : Bool) (output notes : String)
    (writes : List (Path × String)) :
    (Report.mk output notes writes (conclude options hasFindings)).messages = notes := by
  unfold conclude
  split <;> rfl

/-- A check that changes sources and does not fail has gathered and fixed its batches to the end. -/
theorem exists_revision_of_exitCode {gathered : Except CheckError (List Batch)}
    (hfix : options.fix = true) (hdiff : options.diff = false)
    (hexit : (ofGathered options gathered).exitCode < 2) :
    ∃ batches r, gathered = .ok batches ∧ Revision.none.ofBatches batches = (r, none) ∧
      (ofGathered options gathered).writes = r.writes ∧
        (ofGathered options gathered).messages = r.fixNote := by
  cases gathered with
  | error cause => exact absurd hexit (Nat.lt_irrefl 2)
  | ok batches =>
      have hrevises : (options.fix || options.diff) = true := by simp [hfix]
      rw [ofGathered] at hexit ⊢
      cases hrevision : Revision.none.ofBatches batches with
      | mk r stopped =>
          cases stopped with
          | some cause =>
              rw [ofBatches_of_stopped hrevises hrevision] at hexit
              exact absurd hexit (Nat.lt_irrefl 2)
          | none =>
              rw [ofBatches_of_fixed hrevises hrevision, messages_conclude, hdiff]
              exact ⟨batches, r, rfl, hrevision, rfl, rfl⟩

end Report

namespace FileTree

variable {tree : FileTree} {batches : List Batch} {location : Location}

section Gathered

variable (hread : ∀ b ∈ batches, tree.read b.manifest.sourcePath = .ok b.manifest.source)
include hread

theorem text?_of_mem_about {b : Batch} (hb : b ∈ Batch.about tree location batches) :
    b ∈ batches ∧ tree.text? location = some b.manifest.source := by
  obtain ⟨hmem, hlocation⟩ := List.mem_filter.mp hb
  exact ⟨hmem, text?_of_read (hread b hmem) location (eq_of_beq hlocation)⟩

/-- Of the texts that batches change a file to, the last one stays. -/
theorem text?_writeAll_revised (location : Location) :
    (tree.writeAll (batches.filterMap Batch.written?)).text? location =
      (tree.text? location).map
        (((Batch.about tree location batches).filterMap Batch.revised?).getLast?.getD ·) := by
  have hfiles : ∀ written ∈ batches.filterMap Batch.written?,
      ∃ old, tree.read written.1 = .ok old := by
    intro written hwritten
    obtain ⟨b, hb, hmap⟩ := List.mem_filterMap.mp hwritten
    obtain ⟨text, -, rfl⟩ := Option.map_eq_some_iff.mp hmap
    exact ⟨_, hread b hb⟩
  have htexts : (batches.filterMap Batch.written?).filterMap (tree.textAt? location) =
      (Batch.about tree location batches).filterMap Batch.revised? := by
    rw [List.filterMap_filterMap, Batch.about, List.filterMap_filter]
    congr 1
    funext b
    cases hrevised : b.revised? with
    | none => simp [Batch.written?, hrevised]
    | some text => simp [Batch.written?, textAt?, hrevised]
  rw [text?_writeAll hfiles, htexts]
  cases htext : tree.text? location with
  | some original => cases ((Batch.about tree location batches).filterMap _).getLast? <;> rfl
  | none =>
      have hnone : Batch.about tree location batches = [] := by
        refine List.eq_nil_iff_forall_not_mem.mpr fun b hb => ?_
        rw [(text?_of_mem_about hread hb).2] at htext
        cases htext
      rw [hnone]
      rfl

end Gathered

end FileTree

namespace Machine

variable {σ : Type} {machine : Machine σ} {world : World σ} {arguments : List String}
  {options : CheckOptions} {named : Bool}

/-- **Of several results for one source the last stays.** A run that changes sources, and does not
fail, fixes every batch on the text that was there before, and counts all the fixes as applied. A
file keeps its text unless a batch about it changes it, and else comes to hold what the last such
batch makes of it. This is what the findings of all batches about the file make of it together where
these ask for the same fixes, apart from batches that ask for none. -/
theorem text?_afterRun_of_success (hreliable : machine.IsReliable)
    (hexclude : machine.readers.ExcludeModes)
    (hrequest : machine.readers.request arguments = .ok (.check named options))
    (hfix : options.fix = true)
    (hexit : (machine.run arguments world).exitCode = 0 ∨
      (machine.run arguments world).exitCode = 1) :
    ∃ (batches : List Batch) (r : Revision), machine.gather options world = .ok batches ∧
      (machine.run arguments world).messages = r.fixNote ∧
      r.applied = (batches.map Batch.counted).sum ∧
      (∀ b ∈ batches, (∃ fixed, b.fixed = .ok fixed) ∧
        ∀ location ∈ world.tree.location? b.manifest.sourcePath,
          world.tree.text? location = some b.manifest.source) ∧
      (∀ location, (machine.afterRun arguments world).tree.text? location =
        (world.tree.text? location).map
          (((Batch.about world.tree location batches).filterMap
            Batch.revised?).getLast?.getD ·)) ∧
      (∀ location original fixes, world.tree.text? location = some original →
        (∀ b ∈ Batch.about world.tree location batches,
          b.findings = [] ∨ b.findings.map (·.fix) = fixes) →
        ∃ together, Finding.applyAll original
            ((Batch.about world.tree location batches).flatMap (·.findings)) = .ok together ∧
          (machine.afterRun arguments world).tree.text? location = some together.source) := by
  have hdiff : options.diff = false := by
    simpa [hfix] using hexclude arguments named options hrequest
  have hends : (machine.run arguments world).exitCode < 2 := by omega
  have hrun : machine.run arguments world =
      .ofReport (.ofGathered options (machine.gather options world)) := run_of_request hrequest
  rw [hrun] at hends
  obtain ⟨batches, r, hgather, hrevision, hwrites, hmessages⟩ :=
    Report.exists_revision_of_exitCode hfix hdiff hends
  obtain ⟨hfixed, hrevised, happlied⟩ := Revision.ofBatches_eq_none hrevision
  have hread := hreliable.read_of_gather hgather
  have hwritten : (machine.run arguments world).writes = batches.filterMap Batch.written? := by
    rw [hrun, ← List.nil_append (batches.filterMap _)]
    exact hwrites.trans hrevised
  have hstays : ∀ location, (machine.afterRun arguments world).tree.text? location =
      (world.tree.text? location).map
        (((Batch.about world.tree location batches).filterMap Batch.revised?).getLast?.getD ·) := by
    intro location
    rw [hreliable.tree_afterRun, hwritten, FileTree.text?_writeAll_revised hread location]
  refine ⟨batches, r, hgather, by rw [hrun]; exact hmessages,
    by simpa [Revision.none] using happlied,
    fun b hb => ⟨hfixed b hb, FileTree.text?_of_read (hread b hb)⟩, hstays, ?_⟩
  intro location original fixes htext hsame
  have horiginal : ∀ b ∈ Batch.about world.tree location batches,
      b.manifest.source = original := by
    intro b hb
    have hheld := (FileTree.text?_of_mem_about hread hb).2
    rw [htext] at hheld
    exact (Option.some.inj hheld).symm
  obtain ⟨together, htogether, hlast⟩ := Batch.exists_applyAll_flatMap horiginal
    (fun b hb => hfixed b (FileTree.text?_of_mem_about hread hb).1) hsame
  exact ⟨together, htogether, by rw [hstays, htext, Option.map_some, hlast]⟩

/-- A source with two calls. -/
def twoCalls : String := "class A \x7b void m() \x7b x.f(); y.g(); \x7d \x7d\n"

/-- That source, with each of its calls recorded in a manifest of its own. The manifests are written
as arrays of their members. -/
def twoManifests : FileTree where
  place := ["work"]
  files :=
    [(["work", "A.java"], .text twoCalls),
     (["work", "f.inlineme.json"], .text
      "[\"A.java\",[[[\"W\",\"f\",\"\"],[[\"this.open()\"]],\"method\",[21,26],[21,22]]]]"),
     (["work", "g.inlineme.json"], .text
      "[\"A.java\",[[[\"W\",\"g\",\"\"],[[\"this.close()\"]],\"method\",[28,33],[28,29]]]]")]
  directories := []

/-- The options of a check that fixes all sources below a directory. -/
def fixAll (directory : String) : CheckOptions := { paths := [⟨directory⟩], fix := true }

/-- What those manifests come to, one by one and together. -/
theorem run_twoManifests :
    counting.run ["--fix", "."] ⟨twoManifests, 0⟩ =
        ⟨0, "", "Applied 2 fix(es) to 2 file(s)\n",
          [(⟨"./A.java"⟩, "class A \x7b void m() \x7b x.open(); y.g(); \x7d \x7d\n"),
           (⟨"./A.java"⟩, "class A \x7b void m() \x7b x.f(); y.close(); \x7d \x7d\n")]⟩ ∧
      (counting.gather (fixAll ".") ⟨twoManifests, 0⟩).toOption.any (fun batches =>
        Batch.about twoManifests ["work", "A.java"] batches = batches ∧
          (Finding.applyAll twoCalls (batches.flatMap (·.findings))).toOption =
            some ⟨"class A \x7b void m() \x7b x.open(); y.close(); \x7d \x7d\n", 2, 0⟩) = true := by
  decide +kernel

/-- Two fixes are counted as applied, but the file does not come to hold what the findings of the
manifests that name it make of its text: the second result has replaced the first. -/
theorem fix_lost_twoManifests :
    counting.readers.request ["--fix", "."] = .ok (.check false (fixAll ".")) ∧
      (counting.run ["--fix", "."] ⟨twoManifests, 0⟩).exitCode = 0 ∧
      (counting.run ["--fix", "."] ⟨twoManifests, 0⟩).messages =
        "Applied 2 fix(es) to 2 file(s)\n" ∧
      twoManifests.text? ["work", "A.java"] = some twoCalls ∧
      ∃ batches together, counting.gather (fixAll ".") ⟨twoManifests, 0⟩ = .ok batches ∧
        Batch.about twoManifests ["work", "A.java"] batches = batches ∧
        Finding.applyAll twoCalls (batches.flatMap (·.findings)) = .ok together ∧
        (counting.afterRun ["--fix", "."] ⟨twoManifests, 0⟩).tree.text? ["work", "A.java"] ≠
          some together.source := by
  obtain ⟨hrun, hgather⟩ := run_twoManifests
  have hafter : (counting.afterRun ["--fix", "."] ⟨twoManifests, 0⟩).tree.text? ["work", "A.java"] =
      some "class A \x7b void m() \x7b x.f(); y.close(); \x7d \x7d\n" := by
    rw [isReliable_counting.tree_afterRun, hrun]
    decide +kernel
  refine ⟨by decide +kernel, by rw [hrun], by rw [hrun], rfl, ?_⟩
  obtain ⟨batches, hbatches, hholds⟩ := (Option.any_eq_true _ _).mp hgather
  obtain ⟨habout, htogether⟩ := of_decide_eq_true hholds
  refine ⟨batches, _, eq_ok_of_toOption hbatches, habout, eq_ok_of_toOption htogether, ?_⟩
  rw [hafter]
  decide +kernel

/-- Also where the directory is named from the root, the file holds what the last of the two
manifests that changes it makes of it. -/
theorem text?_afterRun_of_success_twoManifests :
    (counting.run ["--fix", "/work"] ⟨twoManifests, 0⟩).exitCode = 0 ∧
      ∃ batches : List Batch, counting.gather (fixAll "/work") ⟨twoManifests, 0⟩ = .ok batches ∧
        (counting.afterRun ["--fix", "/work"] ⟨twoManifests, 0⟩).tree.text? ["work", "A.java"] =
          some (((Batch.about twoManifests ["work", "A.java"] batches).filterMap
            Batch.revised?).getLast?.getD twoCalls) := by
  have hrequest : counting.readers.request ["--fix", "/work"] =
      .ok (.check false (fixAll "/work")) := by decide +kernel
  have hexit : (counting.run ["--fix", "/work"] ⟨twoManifests, 0⟩).exitCode = 0 := by decide +kernel
  obtain ⟨batches, -, hgather, -, -, -, hstays, -⟩ :=
    text?_afterRun_of_success isReliable_counting Readers.excludeModes_standard hrequest rfl
      (Or.inl hexit)
  exact ⟨hexit, batches, hgather, hstays ["work", "A.java"]⟩

end Machine

end CallMigration
