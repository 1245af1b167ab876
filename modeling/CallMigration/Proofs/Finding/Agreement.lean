import CallMigration.Proofs.Finding.Application
import CallMigration.Proofs.ImportTable.Shadowing
import CallMigration.Proofs.Inlining.Verification
import CallMigration.Verification

/-!
# Findings are applied as their edits are

Findings are checked one by one while they are served, and then make a batch together with their
imports. The edits of the same findings make a batch of their own, which is checked first and served
afterwards. Both come to the same (`Finding.applyAll_map_edit`): they fail alike, accept and put off
alike, and make the same of the source where no import has to be added. So a fix without imports
makes of its source the very text that has been seen to compile.
-/

namespace CallMigration

/-- Whether a file provides for all that a fix asks for. -/
structure Fix.IsProvidedBy (fix : Fix) (table : ImportTable) : Prop where
  types : ∀ name ∈ fix.imports.types, table.IsInScope name
  statics : ∀ member ∈ fix.imports.statics, member ∈ table.staticImports

/-- A fix that asks for nothing is provided for everywhere. -/
theorem Fix.isProvidedBy_of_addsImports {fix : Fix} (h : fix.addsImports = false)
    (table : ImportTable) : fix.IsProvidedBy table := by
  rw [addsImports, Bool.not_eq_false', NewImports.isEmpty_iff] at h
  exact ⟨by simp [h.1], by simp [h.2]⟩

namespace Finding

variable {source : String} {findings : List Finding}

/-- Of the edits of findings, those of the accepted ones are accepted. -/
theorem firstCome_map_edit (findings : List Finding) :
    Selection.firstCome Edit.overlaps (findings.map edit) =
      ⟨(select findings).accepted.map edit, (select findings).deferred.map edit⟩ :=
  Selection.serve_map Edit.overlaps edit [] findings

/-- Findings that the file provides for amount to their own edits. -/
theorem editsOf_of_isProvidedBy (h : ∀ f ∈ findings, f.fix.IsProvidedBy (.ofSource source)) :
    editsOf source findings = findings.map edit := by
  have hlines : (ImportTable.ofSource source).missingLines (requestedImports findings) = [] := by
    refine ImportTable.missingLines_eq_nil_iff.mpr ⟨fun name hname => ?_, fun member hmember => ?_⟩
    · obtain ⟨f, hf, hname⟩ := mem_types_requestedImports.mp hname
      exact Or.inr (ImportTable.isVisible_iff.mpr ((h f hf).types name hname))
    · obtain ⟨f, hf, hmember⟩ := mem_statics_requestedImports.mp hmember
      exact (h f hf).statics member hmember
  rw [editsOf, ImportTable.insertion?_eq_none hlines, Option.toList_none, List.append_nil]

/-- Accepted findings that the file provides for make of it what their edits make of it. -/
theorem accepted_editsOf_of_isProvidedBy
    (h : ∀ f ∈ (select findings).accepted, f.fix.IsProvidedBy (.ofSource source)) :
    Edit.accepted (editsOf source (select findings).accepted) =
      Edit.accepted (findings.map edit) := by
  have hfree : ((select findings).accepted.map edit).Pairwise fun e f => e.overlaps f = false :=
    List.pairwise_map.mpr (Selection.pairwise_firstCome findings)
  rw [editsOf_of_isProvidedBy h, Edit.accepted, Selection.firstCome_of_pairwise hfree,
    Edit.accepted, firstCome_map_edit]

/-- A single finding without imports makes of its source what its edit makes of it. -/
theorem map_source_applyAll_singleton {f : Finding} (h : f.fix.addsImports = false) :
    (applyAll source [f]).map (·.source) = f.edit.apply source := by
  have hprovided : ∀ g ∈ (select [f]).accepted, g.fix.IsProvidedBy (.ofSource source) := by
    intro g hg
    obtain rfl := List.mem_singleton.mp ((Selection.firstCome_sublist [f]).subset hg)
    exact Fix.isProvidedBy_of_addsImports h _
  have hsame := accepted_editsOf_of_isProvidedBy hprovided
  rw [Edit.apply]
  cases hedits : Edit.applyAll source [f.edit] with
  | error cause =>
      have hfails : applyAll source [f] = .error cause :=
        applyAll_eq_error_iff.mpr (Edit.applyAll_eq_error_iff.mp hedits)
      rw [hfails]
      rfl
  | ok made =>
      have hvalid := Edit.validate_of_applyAll hedits
      rw [Edit.applyAll_of_valid hvalid] at hedits
      rw [applyAll_of_valid (by simpa [edit] using hvalid), hsame, ← Except.ok.inj hedits]
      rfl

/-- **Findings are applied as their edits are.** Applying findings fails exactly if applying their
edits does, and with the same cause; the edit that adds imports is always valid. Otherwise as many
are accepted and as many are put off either way, together all of them; and the source becomes the
same where it provides for all that the accepted fixes ask for. A fix without imports is verified,
by whatever confirms texts, on the very text that the finding makes of the source. -/
theorem applyAll_map_edit (source : String) (findings : List Finding) :
    (∀ cause, applyAll source findings = .error cause ↔
        Edit.applyAll source (findings.map edit) = .error cause) ∧
      (∀ requests e, (ImportTable.ofSource source).insertion? source requests = some e →
        e.validate source = .ok ()) ∧
      (∀ fixed, applyAll source findings = .ok fixed →
        ∃ made, Edit.applyAll source (findings.map edit) = .ok made ∧
          fixed.applied = made.applied ∧ fixed.deferred = made.deferred.length ∧
          fixed.applied + fixed.deferred = findings.length ∧
          ((∀ f ∈ (select findings).accepted, f.fix.IsProvidedBy (.ofSource source)) →
            fixed.source = made.source)) ∧
      ∀ f, f.fix.addsImports = false →
        (applyAll source [f]).map (·.source) = f.edit.apply source ∧
          ∀ {m : Type → Type} [Monad m] (confirms : String → m Bool) (v : Verification),
            v.source = source →
              v.compiles confirms f.edit =
                match applyAll source [f] with
                | .error _ => pure false
                | .ok fixed => confirms fixed.source := by
  refine ⟨?fails, ?imports, ?succeeds, ?single⟩
  case fails =>
    intro cause
    rw [applyAll_eq_error_iff, Edit.applyAll_eq_error_iff]
  case imports => exact fun requests e => ImportTable.validate_of_insertion?
  case succeeds =>
    intro fixed h
    have hvalid : ∀ e ∈ findings.map edit, e.validate source = .ok () :=
      List.forall_mem_map.mpr (validate_of_applyAll h)
    refine ⟨_, Edit.applyAll_of_valid hvalid, ?_⟩
    rw [applyAll_of_valid (validate_of_applyAll h)] at h
    obtain rfl := Except.ok.inj h
    simp only [firstCome_map_edit, List.length_map, true_and]
    refine ⟨Selection.length_add_length _ findings, fun hprovided => ?_⟩
    rw [accepted_editsOf_of_isProvidedBy hprovided, Edit.accepted, firstCome_map_edit]
  case single =>
    intro f hf
    have hsource : (applyAll source [f]).map (·.source) = f.edit.apply source :=
      map_source_applyAll_singleton hf
    refine ⟨hsource, fun confirms v hv => ?_⟩
    subst hv
    rw [Verification.compiles, ← hsource]
    cases applyAll v.source [f] <;> rfl

/-- A finding that replaces a range by a text and asks for imports. -/
def replacing (range : TextRange) (text : String) (imports : List String) : Finding :=
  .unlocated default range ⟨⟨range, text⟩, ⟨imports, []⟩⟩ true

/-- A call and the receiver of it, in a file without imports. -/
def nestedSource : String := "class C \x7b int x = a.b().c(); \x7d\n"

/-- The fix of the receiver is made, and that of the call put off with its import. -/
theorem applyAll_map_edit_nested :
    applyAll nestedSource [replacing ⟨18, 23⟩ "a.d()" [], replacing ⟨18, 27⟩ "z" ["r.Z"]] =
        .ok ⟨"class C \x7b int x = a.d().c(); \x7d\n", 1, 1⟩ ∧
      ∃ made, Edit.applyAll nestedSource [⟨⟨18, 23⟩, "a.d()"⟩, ⟨⟨18, 27⟩, "z"⟩] = .ok made ∧
        made.applied = 1 ∧ made.deferred.length = 1 ∧
          made.source = "class C \x7b int x = a.d().c(); \x7d\n" := by
  have hfixed : applyAll nestedSource
      [replacing ⟨18, 23⟩ "a.d()" [], replacing ⟨18, 27⟩ "z" ["r.Z"]] =
        .ok ⟨"class C \x7b int x = a.d().c(); \x7d\n", 1, 1⟩ := by
    decide +kernel
  have haccepted : (select
      [replacing ⟨18, 23⟩ "a.d()" [], replacing ⟨18, 27⟩ "z" ["r.Z"]]).accepted =
        [replacing ⟨18, 23⟩ "a.d()" []] := by
    decide +kernel
  obtain ⟨made, hmade, happlied, hdeferred, -, hsource⟩ :=
    (applyAll_map_edit _ _).2.2.1 _ hfixed
  refine ⟨hfixed, made, hmade, happlied.symm, hdeferred.symm, (hsource fun f hf => ?_).symm⟩
  rw [haccepted] at hf
  obtain rfl := List.mem_singleton.mp hf
  exact Fix.isProvidedBy_of_addsImports rfl _

end Finding

end CallMigration
