import CallMigration.Finding.Application
import CallMigration.Proofs.Edit.Batch
import CallMigration.Proofs.ImportTable.Place

/-!
# What applying findings depends on

* `Finding.applyAll_of_valid`: findings with valid edits can be applied;
* `Finding.applyAll_eq_error_iff_first`: otherwise the first edit that is not valid is reported;
* `Finding.source_applyAll_eq`: what becomes of a source depends on the accepted fixes alone;
* `Finding.source_applyAll_flatten`: findings that ask for the same fixes once more change nothing.
-/

namespace CallMigration

/-- Whether the edits of two fixes claim the same place. -/
def Fix.overlaps (a b : Fix) : Bool := a.edit.overlaps b.edit

namespace Finding

variable {source : String} {findings : List Finding} {cause : EditError} {fixed : FixedSource}

/-- Findings whose edits are valid are applied by the batch of the accepted ones. -/
theorem applyAll_of_valid (h : ∀ f ∈ findings, f.edit.validate source = .ok ()) :
    applyAll source findings =
      .ok ⟨Edit.makeAll source (Edit.accepted (editsOf source (select findings).accepted)),
        (select findings).accepted.length, (select findings).deferred.length⟩ := by
  have hcheck : Edit.validateAll source (findings.map edit) = .ok () :=
    Edit.validateAll_eq_ok_iff.mpr (List.forall_mem_map.mpr h)
  have hvalid : ∀ e ∈ editsOf source (select findings).accepted, e.validate source = .ok () := by
    intro e he
    rcases List.mem_append.mp he with he | he
    · obtain ⟨f, hf, rfl⟩ := List.mem_map.mp he
      exact h f ((Selection.firstCome_sublist findings).subset hf)
    · exact ImportTable.validate_of_insertion? (Option.mem_toList.mp he)
  simp [applyAll_eq, hcheck, Edit.applyAll_of_valid hvalid, Edit.accepted]

/-- Only findings whose edits are valid can be applied. -/
theorem validate_of_applyAll (h : applyAll source findings = .ok fixed) :
    ∀ f ∈ findings, f.edit.validate source = .ok () := by
  rw [applyAll_eq] at h
  split at h
  · cases h
  · next hcheck =>
      exact fun f hf => Edit.validateAll_eq_ok_iff.mp hcheck _ (List.mem_map_of_mem hf)

/-- Applying findings fails only where the edit of one of them is not valid. -/
theorem applyAll_eq_error_iff :
    applyAll source findings = .error cause ↔
      Edit.validateAll source (findings.map edit) = .error cause := by
  cases hcheck : Edit.validateAll source (findings.map edit) with
  | error other => simp [applyAll_eq, hcheck]
  | ok checked =>
      have hvalid := List.forall_mem_map.mp (Edit.validateAll_eq_ok_iff.mp hcheck)
      simp [applyAll_of_valid hvalid]

/-- Applying findings reports the first of them whose edit is not valid. -/
theorem applyAll_eq_error_iff_first :
    applyAll source findings = .error cause ↔
      ∃ before f after, findings = before ++ f :: after ∧
        (∀ g ∈ before, g.edit.validate source = .ok ()) ∧
        f.edit.validate source = .error cause := by
  rw [applyAll_eq_error_iff, Edit.validateAll_eq_error_iff]
  constructor
  · rintro ⟨edits, e, edits', hsplit, hbefore, he⟩
    obtain ⟨before, rest, rfl, rfl, hrest⟩ := List.map_eq_append_iff.mp hsplit
    obtain ⟨f, after, rfl, rfl, -⟩ := List.map_eq_cons_iff.mp hrest
    exact ⟨before, f, after, rfl, fun g hg => hbefore _ (List.mem_map_of_mem hg), he⟩
  · rintro ⟨before, f, after, rfl, hbefore, hf⟩
    refine ⟨before.map edit, f.edit, after.map edit, by simp, ?_, hf⟩
    exact List.forall_mem_map.mpr hbefore

/-- Of fixes that come in some order, those that are accepted. -/
def acceptedFixes (fixes : List Fix) : List Fix :=
  (Selection.firstCome Fix.overlaps fixes).accepted

/-- Which findings are accepted depends on their fixes alone. -/
theorem map_fix_select (findings : List Finding) :
    (select findings).accepted.map fix = acceptedFixes (findings.map fix) :=
  (congrArg Selection.accepted (Selection.serve_map Fix.overlaps fix [] findings)).symm

theorem requestedImports_eq_none (h : ∀ f ∈ findings, f.fix.imports = .none) :
    requestedImports findings = .none := by
  unfold requestedImports
  induction findings with
  | nil => rfl
  | cons f findings ih =>
      rw [List.foldl_cons, h f List.mem_cons_self]
      exact ih fun g hg => h g (List.mem_cons_of_mem _ hg)

/-- Where no imports are asked for, accepted findings amount to their own edits. -/
theorem editsOf_of_imports_none (h : ∀ f ∈ findings, f.fix.imports = .none) :
    editsOf source findings = findings.map edit := by
  have hlines : (ImportTable.ofSource source).missingLines (requestedImports findings) = [] := by
    rw [requestedImports_eq_none h]
    rfl
  rw [editsOf, ImportTable.insertion?_eq_none hlines, Option.toList_none, List.append_nil]

/-- Accepted findings amount to edits that depend on their fixes alone. -/
theorem editsOf_congr {accepted accepted' : List Finding}
    (h : accepted.map fix = accepted'.map fix) :
    editsOf source accepted = editsOf source accepted' := by
  have himports (findings : List Finding) :
      requestedImports findings =
        (findings.map fix).foldl (fun requests fix => requests.merge fix.imports) .none := by
    rw [List.foldl_map]
    rfl
  have hedits (findings : List Finding) : findings.map edit = (findings.map fix).map Fix.edit := by
    rw [List.map_map]
    rfl
  rw [editsOf, editsOf, himports, himports, hedits, hedits, h]

/-- What becomes of a source depends on the accepted fixes alone. -/
theorem source_applyAll_eq {findings' : List Finding} {fixed' : FixedSource}
    (hfixes : acceptedFixes (findings.map fix) = acceptedFixes (findings'.map fix))
    (h : applyAll source findings = .ok fixed) (h' : applyAll source findings' = .ok fixed') :
    fixed.source = fixed'.source := by
  rw [← map_fix_select, ← map_fix_select] at hfixes
  rw [applyAll_of_valid (validate_of_applyAll h)] at h
  rw [applyAll_of_valid (validate_of_applyAll h')] at h'
  rw [← Except.ok.inj h, ← Except.ok.inj h']
  simp only [editsOf_congr hfixes]

theorem applyAll_nil (source : String) : applyAll source [] = .ok ⟨source, 0, 0⟩ := by
  have hedits : editsOf source [] = [] := editsOf_of_imports_none (by simp)
  rw [applyAll_of_valid (by simp)]
  simp [select, Selection.firstCome, Selection.serve, hedits, Edit.accepted, Edit.makeAll, inOrder]

/-- Fixes that come once more overlap those accepted before, and are put off. -/
theorem acceptedFixes_append {fixes more : List Fix}
    (hforward : ∀ fix ∈ fixes, fix.edit.range.start ≤ fix.edit.range.stop)
    (hmore : ∀ fix ∈ more, fix ∈ fixes) : acceptedFixes (fixes ++ more) = acceptedFixes fixes := by
  have hself : ∀ fix ∈ fixes, fix.overlaps fix = true :=
    fun fix hfix => Edit.overlaps_self (hforward fix hfix)
  have hlater : ∀ fix ∈ more,
      ([] ++ (Selection.serve Fix.overlaps [] fixes).accepted).any (·.overlaps fix) = true :=
    fun fix hfix => Selection.any_overlaps_of_mem hself (hmore fix hfix)
  rw [acceptedFixes, Selection.firstCome, Selection.serve_append_of_overlapped hlater]
  rfl

/-- Groups of fixes that are all the same, apart from empty ones, say the same over and over. -/
theorem exists_flatten_eq {fixes : List Fix} {groups : List (List Fix)}
    (h : ∀ group ∈ groups, group = [] ∨ group = fixes) :
    groups.flatten = [] ∨ ∃ more, groups.flatten = fixes ++ more ∧ ∀ fix ∈ more, fix ∈ fixes := by
  induction groups with
  | nil => exact Or.inl rfl
  | cons group groups ih =>
      rw [List.forall_mem_cons] at h
      rw [List.flatten_cons]
      rcases h.1 with rfl | rfl
      · exact ih h.2
      · refine Or.inr ⟨groups.flatten, rfl, fun fix hfix => ?_⟩
        rcases ih h.2 with hnone | ⟨more, hmore, hmem⟩
        · rw [hnone] at hfix
          cases hfix
        · rw [hmore] at hfix
          exact (List.mem_append.mp hfix).elim id (hmem fix)

/-- **Repeated fixes change nothing.** Groups of findings that ask for the same fixes, apart from
groups that ask for none, make of a source together what each of them makes of it. -/
theorem source_applyAll_flatten {groups : List (List Finding)} {fixes : List Fix}
    (hsame : ∀ group ∈ groups, group = [] ∨ group.map fix = fixes) {group : List Finding}
    (hgroup : group ∈ groups) (hne : group ≠ []) {fixed' : FixedSource}
    (h : applyAll source group = .ok fixed) (h' : applyAll source groups.flatten = .ok fixed') :
    fixed'.source = fixed.source := by
  have hfixes : group.map fix = fixes := (hsame group hgroup).resolve_left hne
  have hforward : ∀ fix ∈ fixes, fix.edit.range.start ≤ fix.edit.range.stop := by
    rw [← hfixes]
    exact List.forall_mem_map.mpr
      fun f hf => Edit.start_le_stop_of_validate (validate_of_applyAll h f hf)
  have hgroups : ∀ fixes' ∈ groups.map (·.map fix), fixes' = [] ∨ fixes' = fixes :=
    List.forall_mem_map.mpr fun group hgroup => (hsame group hgroup).imp_left fun hnil => by
      rw [hnil, List.map_nil]
  have hflatten : groups.flatten.map fix = (groups.map (·.map fix)).flatten := List.map_flatten
  refine source_applyAll_eq ?_ h' h
  rw [hflatten, hfixes]
  rcases exists_flatten_eq hgroups with hnone | ⟨more, hmore, hmem⟩
  · have hempty : group.map fix = [] :=
      List.flatten_eq_nil_iff.mp hnone _ (List.mem_map_of_mem hgroup)
    exact absurd (List.map_eq_nil_iff.mp hempty) hne
  · rw [hmore, acceptedFixes_append hforward hmem]

end Finding

end CallMigration
