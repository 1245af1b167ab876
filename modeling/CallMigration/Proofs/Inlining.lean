import CallMigration.Manifest.Loaded
import CallMigration.Proofs.ImportTable.Qualify
import CallMigration.Proofs.Inlining.Gates

/-!
# What findings are made of

A call is answered with a finding in two ways only: its statement goes away, or the call is replaced
by what its template says (`CallSite.verdict_inline`). A fix that is found in a file therefore
either adds no imports or adds those that spelling the types of its template asks for, each of which
the file has to import and can (`Fix.adds_of_isFoundIn`).
-/

namespace CallMigration

theorem Verdict.finding?_eq_some_iff {verdict : Verdict} {finding : Finding} :
    verdict.finding? = some finding ↔ verdict = .found finding := by
  cases verdict <;> simp [finding?]

namespace CallSite

variable {site : CallSite} {template : Option Template} {settings : Settings}
  {table : ImportTable} {collaborators : Collaborators}

/-- **What a finding is.** It comes from a template, at a call that passes the prefixes and the
comments. Either it deletes the statement of a call whose receiver has no side effect, or it
replaces the call, seen to compile where it must. -/
theorem verdict_inline {finding : Finding}
    (h : (site.inline template settings table collaborators).verdict = .found finding) :
    ∃ t, template = some t ∧ site.IsOpen settings ∧
      ((∃ statement receiver, site.IsPassThrough t statement receiver ∧
          collaborators.hasSideEffect receiver = false ∧
          finding = deletion (Api.ofTarget site.target t) t statement) ∨
        ((∀ statement receiver, site.IsPassThrough t statement receiver →
            collaborators.hasSideEffect receiver = true) ∧
          finding = site.replacement (Api.ofTarget site.target t) t (site.callFix t table) ∧
          site.ConfirmedAs t settings collaborators (site.callFix t table) (.found finding)
            (site.inline template settings table collaborators).compileQueries)) := by
  have hinspected := inspectedAs_inline site template settings table collaborators
  generalize site.inline template settings table collaborators = inspection at h hinspected
  cases hinspected with
  | notAnnotated => cases h
  | prefixFiltered => cases h
  | containsComments => cases h
  | @deleted t statement receiver ht hopen hpass hpure =>
      obtain rfl := Verdict.found.inj h
      exact ⟨t, ht, hopen, Or.inl ⟨statement, receiver, hpass, hpure, rfl⟩⟩
  | @replaced t asked verdict fixes ht hopen hkept hconfirmed =>
      obtain rfl : verdict = .found finding := h
      refine ⟨t, ht, hopen, Or.inr ⟨fun _ _ => hkept.hasSideEffect, ?_, hconfirmed⟩⟩
      cases hconfirmed with
      | unchecked => rfl
      | accepted => rfl

/-- The types that the fix of a call asks for are those that spelling the template's asks for. -/
theorem types_callFix (site : CallSite) (t : Template) (table : ImportTable) :
    (site.callFix t table).imports.types = (spellTypes table t.imports .none).2.types :=
  NewImports.types_foldl_addStatic _ _

section EditRange

variable {t : Template} {receiver : Expression}

theorem keepsReceiver_iff :
    site.keepsReceiver t = true ↔
      site.receiver?.isSome = true ∧ "this.".toList <+: t.replacement.toList := by
  rw [keepsReceiver, Bool.and_eq_true, List.isPrefixOf_iff_prefix]

/-- Behind a receiver that is kept, the fix of a call replaces what is left of the call. -/
theorem editRange_of_receiver (hreceiver : site.receiver? = some receiver)
    (hthis : "this.".toList <+: t.replacement.toList) :
    site.editRange t = ⟨receiver.range.stop, site.call.range.stop⟩ := by
  have hkeeps : site.keepsReceiver t = true := keepsReceiver_iff.mpr ⟨by simp [hreceiver], hthis⟩
  simp [editRange, hreceiver, hkeeps]

/-- Where no receiver is kept, the fix of a call replaces all of it. -/
theorem editRange_of_not_keepsReceiver (h : site.keepsReceiver t = false) :
    site.editRange t = site.call.range := by
  unfold editRange
  rw [h]
  split <;> rfl

/-- Without a receiver, or for a template that does not begin with `this.`, none is kept. -/
theorem editRange_of_whole
    (h : site.receiver? = none ∨ ¬ "this.".toList <+: t.replacement.toList) :
    site.editRange t = site.call.range := by
  apply editRange_of_not_keepsReceiver
  rw [← Bool.not_eq_true]
  intro hkeeps
  obtain ⟨hsome, hthis⟩ := keepsReceiver_iff.mp hkeeps
  rcases h with hnone | hother
  · rw [hnone] at hsome
    cases hsome
  · exact hother hthis

/-- The fix of a call replaces what follows a receiver that is kept, or the whole call. -/
theorem editRange_cases (site : CallSite) (t : Template) :
    (∃ receiver, site.receiver? = some receiver ∧
      site.editRange t = ⟨receiver.range.stop, site.call.range.stop⟩) ∨
        site.editRange t = site.call.range := by
  cases hreceiver : site.receiver? with
  | none => exact Or.inr (editRange_of_whole (Or.inl hreceiver))
  | some receiver =>
      by_cases hthis : "this.".toList <+: t.replacement.toList
      · exact Or.inl ⟨receiver, rfl, editRange_of_receiver hreceiver hthis⟩
      · exact Or.inr (editRange_of_whole (Or.inr hthis))

end EditRange

end CallSite

namespace Fix

/-- Whether the fix replaces a call of the file by what a template says. -/
def IsDueTo (fix : Fix) (table : ImportTable) (t : Template) : Prop :=
  ∃ site : CallSite, fix = site.callFix t table

/-- Whether inlining some call finds the fix, in a file with the given import table. -/
def IsFoundIn (fix : Fix) (table : ImportTable) : Prop :=
  ∃ (site : CallSite) (template : Option Template) (settings : Settings)
    (collaborators : Collaborators) (finding : Finding),
    (site.inline template settings table collaborators).verdict = .found finding ∧
      finding.fix = fix

variable {fix : Fix} {table : ImportTable}

/-- A fix that is found adds no imports or is due to a template. -/
theorem isDueTo_of_isFoundIn (h : fix.IsFoundIn table) :
    fix.imports = .none ∨ ∃ t, fix.IsDueTo table t := by
  obtain ⟨site, template, settings, collaborators, finding, hverdict, rfl⟩ := h
  obtain ⟨t, -, -, ⟨_, _, -, -, rfl⟩ | ⟨-, rfl, -⟩⟩ := CallSite.verdict_inline hverdict
  · exact Or.inl rfl
  · exact Or.inr ⟨t, site, rfl⟩

/-- **What a template imports.** The fix due to a template asks for a type exactly if it is the one
that the file comes to import for the template under its simple name. -/
theorem mem_types_of_isDueTo {t : Template} (h : fix.IsDueTo table t) {name : String} :
    name ∈ fix.imports.types ↔
      table.importFor? t.imports (QualifiedName.simpleName name) = some name := by
  obtain ⟨site, rfl⟩ := h
  rw [CallSite.types_callFix, ImportTable.mem_types_spellTypes_iff]
  simp [NewImports.none, ImportTable.clashes]

/-- The imports of a fix that is found are fit to be added to the file. -/
theorem adds_of_isFoundIn (h : fix.IsFoundIn table) : table.Adds fix.imports.types := by
  rcases isDueTo_of_isFoundIn h with hnone | ⟨t, site, rfl⟩
  · rw [hnone]
    exact ImportTable.adds_nil table
  · rw [CallSite.types_callFix]
    exact ImportTable.adds_spellTypes t.imports (ImportTable.adds_nil table)

end Fix

namespace LoadedManifest

variable {m : LoadedManifest} {settings : Settings} {compiles : Option (Fix → Bool)} {f : Finding}

/-- Whether a finding for a manifest is the one that an entry of it is answered with, placed in the
source. -/
def Reports (m : LoadedManifest) (settings : Settings) (compiles : Option (Fix → Bool))
    (e : ManifestEntry) (f : Finding) : Prop :=
  e ∈ m.entries ∧ ∃ finding,
    (e.site.inline e.template settings (.ofSource m.source) ⟨m.hasSideEffect, compiles⟩).verdict =
      .found finding ∧ f = finding.located m.sourcePath.text m.source

/-- The findings for a manifest are those that its entries are answered with. -/
theorem mem_findings_iff :
    f ∈ m.findings settings compiles ↔ ∃ e, m.Reports settings compiles e f := by
  simp only [findings, inspect, List.mem_filterMap, Option.map_eq_some_iff,
    Verdict.finding?_eq_some_iff, Reports, eq_comm (a := f)]

theorem inspectedAs_inspect (m : LoadedManifest) (table : ImportTable) (settings : Settings)
    (compiles : Option (Fix → Bool)) (e : ManifestEntry) :
    e.site.InspectedAs e.template settings table ⟨m.hasSideEffect, compiles⟩
      (m.inspect table settings compiles e) :=
  CallSite.inspectedAs_inline _ _ _ _ _

/-- The findings for a manifest are found in its source. -/
theorem isFoundIn_of_mem_findings (h : f ∈ m.findings settings compiles) :
    f.fix.IsFoundIn (.ofSource m.source) := by
  obtain ⟨e, -, finding, hverdict, rfl⟩ := mem_findings_iff.mp h
  exact ⟨e.site, e.template, settings, ⟨m.hasSideEffect, compiles⟩, finding, hverdict, rfl⟩

end LoadedManifest

end CallMigration
