import CallMigration.Proofs.Finding.Application
import CallMigration.Proofs.Inlining
import CallMigration.Proofs.Manifest.Record

/-!
# Whether the findings for a manifest can be applied

The fix of a call replaces a range that loading has read, and imports are added at a boundary, so
that only the deletion of a statement can fail: the range of a statement is never read. Applying the
findings for a loaded manifest fails exactly at the first of them that deletes a statement whose
range is none of the source (`LoadedManifest.applyAll_findings`).
-/

namespace CallMigration

namespace Finding

variable {source : String}

/-- Whether a finding deletes a statement. -/
def Deletes (f : Finding) (statement : TextRange) : Prop := f.fix = ⟨.deletion statement, .none⟩

theorem Deletes.edit_range {f : Finding} {statement : TextRange} (h : f.Deletes statement) :
    f.edit.range = statement := by
  rw [edit, h]
  rfl

/-- A deletion is valid where its statement is a piece of the source. -/
theorem Deletes.validate_eq_ok_iff {f : Finding} {statement : TextRange} (h : f.Deletes statement) :
    f.edit.validate source = .ok () ↔ (statement.slice? source).isSome = true := by
  rw [Edit.validate_eq_ok_iff_slice?, h.edit_range]

end Finding

namespace LoadedManifest

variable {sourcePath : Path} {source : String} {records : List CallRecord} {m : LoadedManifest}

/-- A finding for a loaded manifest replaces a range of the source, unless it deletes the statement
of a record. -/
theorem validate_or_deletes (h : ofRecords sourcePath source records = .ok m) {settings : Settings}
    {compiles : Option (Fix → Bool)} {f : Finding} (hf : f ∈ m.findings settings compiles) :
    f.edit.validate source = .ok () ∨
      ∃ r ∈ records, ∃ statement, r.statement = some statement ∧
        statement.contains r.call = true ∧ statement.start ≤ statement.stop ∧
        f.Deletes statement := by
  obtain ⟨-, hsource, hentries⟩ := exists_record h
  obtain ⟨e, he, finding, hverdict, rfl⟩ := mem_findings_iff.mp hf
  obtain ⟨r, hr, hsite, -⟩ := hentries e he
  obtain ⟨hread, hcall, hstatement⟩ := CallRecord.readFrom_of_site hsite
  obtain ⟨t, -, -, ⟨statement, receiver, hpass, -, rfl⟩ | ⟨-, rfl, -⟩⟩ :=
    CallSite.verdict_inline hverdict
  · right
    have hsome := hpass.statement
    have hcontains := hread.statement statement hsome
    obtain ⟨before, after, hcut⟩ := TextRange.slice?_eq_some_iff.mp hread.call
    have hforward := (TextRange.byteLength_of_cut? hcut).2.2
    refine ⟨r, hr, statement, hstatement ▸ hsome, hcall ▸ hcontains, ?_, rfl⟩
    rw [TextRange.contains_iff] at hcontains
    omega
  · left
    exact Edit.validate_eq_ok_iff.mpr (hread.cut?_editRange t)

/-- Deleting a statement that is no piece of the source fails. -/
theorem validate_of_deletes (h : ofRecords sourcePath source records = .ok m) {settings : Settings}
    {compiles : Option (Fix → Bool)} {f : Finding} (hf : f ∈ m.findings settings compiles)
    {statement : TextRange} (hdeletes : f.Deletes statement)
    (hslice : statement.slice? source = none) :
    f.edit.validate source = .error (Edit.misfit source statement) := by
  have hrange := hdeletes.edit_range
  have hforward : statement.start ≤ statement.stop := by
    rcases validate_or_deletes h hf with hvalid | ⟨r, -, statement', -, -, hforward, hdeletes'⟩
    · rw [← hrange]
      exact Edit.start_le_stop_of_validate hvalid
    · rw [← hrange, hdeletes'.edit_range]
      exact hforward
  rw [← hrange] at hforward hslice ⊢
  exact Edit.validate_eq_misfit hforward hslice

/-- **Only deleting a statement can fail.** Of the findings for a loaded manifest, those have an
edit that is valid for the source which do not delete the statement of a record, or delete one whose
range is one of the source. Applying the findings fails exactly at the first that deletes a
statement whose range is none of the source; so it succeeds where all recorded statements are pieces
of it. -/
theorem applyAll_findings (h : ofRecords sourcePath source records = .ok m) (settings : Settings)
    (compiles : Option (Fix → Bool)) :
    (∀ f ∈ m.findings settings compiles,
      f.edit.validate source = .ok () ↔ ¬ ∃ r ∈ records, ∃ statement,
        r.statement = some statement ∧ statement.contains r.call = true ∧ f.Deletes statement ∧
          statement.slice? source = none) ∧
      (∀ cause, Finding.applyAll source (m.findings settings compiles) = .error cause ↔
        ∃ before f after statement, m.findings settings compiles = before ++ f :: after ∧
          (∀ g ∈ before, g.edit.validate source = .ok ()) ∧ f.Deletes statement ∧
          statement.slice? source = none ∧ cause = Edit.misfit source statement) ∧
      ((∀ r ∈ records, ∀ statement ∈ r.statement, (statement.slice? source).isSome) →
        ∃ fixed, Finding.applyAll source (m.findings settings compiles) = .ok fixed) := by
  refine ⟨?valid, ?error, ?success⟩
  case valid =>
    intro f hf
    constructor
    · rintro hvalid ⟨r, hr, statement, hstatement, hcontains, hdeletes, hslice⟩
      rw [hdeletes.validate_eq_ok_iff, hslice] at hvalid
      cases hvalid
    · intro hnone
      rcases validate_or_deletes h hf with hvalid |
        ⟨r, hr, statement, hstatement, hcontains, -, hdeletes⟩
      · exact hvalid
      · rw [hdeletes.validate_eq_ok_iff, Option.isSome_iff_ne_none]
        exact fun hslice => hnone ⟨r, hr, statement, hstatement, hcontains, hdeletes, hslice⟩
  case error =>
    intro cause
    rw [Finding.applyAll_eq_error_iff_first]
    constructor
    · rintro ⟨before, f, after, hsplit, hbefore, herror⟩
      have hf : f ∈ m.findings settings compiles := by simp [hsplit]
      rcases validate_or_deletes h hf with hvalid | ⟨r, hr, statement, -, -, hforward, hdeletes⟩
      · rw [hvalid] at herror
        cases herror
      · have hslice : statement.slice? source = none := by
          rw [← Option.not_isSome_iff_eq_none, ← hdeletes.validate_eq_ok_iff, herror]
          simp
        have hmisfit := validate_of_deletes h hf hdeletes hslice
        rw [herror] at hmisfit
        exact ⟨before, f, after, statement, hsplit, hbefore, hdeletes, hslice,
          Except.error.inj hmisfit⟩
    · rintro ⟨before, f, after, statement, hsplit, hbefore, hdeletes, hslice, rfl⟩
      have hf : f ∈ m.findings settings compiles := by simp [hsplit]
      exact ⟨before, f, after, hsplit, hbefore, validate_of_deletes h hf hdeletes hslice⟩
  case success =>
    intro hstatements
    cases happly : Finding.applyAll source (m.findings settings compiles) with
    | ok fixed => exact ⟨fixed, rfl⟩
    | error cause =>
        obtain ⟨before, f, after, hsplit, -, herror⟩ :=
          Finding.applyAll_eq_error_iff_first.mp happly
        have hf : f ∈ m.findings settings compiles := by simp [hsplit]
        have hvalid : f.edit.validate source = .ok () := by
          rcases validate_or_deletes h hf with hvalid | ⟨r, hr, statement, hsome, -, -, hdeletes⟩
          · exact hvalid
          · exact hdeletes.validate_eq_ok_iff.mpr (hstatements r hr statement hsome)
        rw [hvalid] at herror
        cases herror

/-- A call that amounts to its receiver, recorded with a statement that ends after the source. -/
def overlongRecord : CallRecord where
  target := ⟨"w.W", "noop", "w", [], false, false, false⟩
  annotations := ⟨some ⟨"this", [], []⟩, none⟩
  kind := .method
  call := ⟨21, 31⟩
  receiver := some ⟨21, 24⟩
  keyword := none
  className := none
  arguments := []
  statement := some ⟨21, 99⟩
  receiverSideEffect := none

/-- The source of that call. -/
def overlongSource : String := "class A { void m() { foo.noop(); } }
"

/-- The manifest is loaded, and the finding for it cannot be applied. -/
theorem applyAll_fails_overlong :
    ((ofRecords ⟨"A.java"⟩ overlongSource [overlongRecord]).toOption.map fun m =>
      Finding.applyAll overlongSource (m.findings .default none)) =
        some (.error (.outOfBounds ⟨21, 99⟩ 37)) := by
  decide +kernel

/-- Its finding deletes the statement that is no piece of the source. -/
theorem applyAll_findings_overlong :
    ∃ m, ofRecords ⟨"A.java"⟩ overlongSource [overlongRecord] = .ok m ∧
      ∃ f ∈ m.findings .default none, f.Deletes ⟨21, 99⟩ ∧
        (⟨21, 99⟩ : TextRange).slice? overlongSource = none := by
  have hfails : ((ofRecords ⟨"A.java"⟩ overlongSource [overlongRecord]).toOption.map fun m =>
      Finding.applyAll overlongSource (m.findings .default none)) =
        some (.error (.outOfBounds ⟨21, 99⟩ 37)) := by
    decide +kernel
  cases hload : ofRecords ⟨"A.java"⟩ overlongSource [overlongRecord] with
  | error cause =>
      rw [hload] at hfails
      cases hfails
  | ok m =>
      rw [hload] at hfails
      obtain ⟨before, f, after, statement, hsplit, -, hdeletes, hslice, hcause⟩ :=
        ((applyAll_findings hload .default none).2.1 _).mp (Option.some.inj hfails)
      have hstatement : statement = ⟨21, 99⟩ := by
        unfold Edit.misfit at hcause
        split at hcause
        · exact (EditError.outOfBounds.inj hcause).1.symm
        · cases hcause
      subst hstatement
      exact ⟨m, rfl, f, by simp [hsplit], hdeletes, hslice⟩

end LoadedManifest

end CallMigration
