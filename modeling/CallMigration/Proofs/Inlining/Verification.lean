import CallMigration.Proofs.Finding.Imports
import CallMigration.Proofs.ImportTable.Place

/-!
# Which fixes are seen to compile

Where fixes must be seen to compile, those are let off that ask for imports. The types that a fix
asks for are new to the file, so that each of them brings a line. The static members are those of
the template, whether or not the file has them. A fix can therefore ask for imports, and be let off,
when nothing is added to the file; this is so exactly for templates with static members that the
file imports already (`CallSite.isVerified_iff_of_found`).
-/

namespace CallMigration

namespace NewImports

theorem mem_statics_foldl_addStatic {members : List String} {n : NewImports} {member : String} :
    member ∈ (members.foldl addStatic n).statics ↔ member ∈ n.statics ∨ member ∈ members := by
  induction members generalizing n with
  | nil => simp
  | cons first members ih =>
      rw [List.foldl_cons, ih, addStatic, mem_pushNew, List.mem_cons, or_assoc]

theorem isEmpty_iff {n : NewImports} : n.isEmpty = true ↔ n.types = [] ∧ n.statics = [] := by
  rw [isEmpty, Bool.and_eq_true, List.isEmpty_iff, List.isEmpty_iff]

end NewImports

namespace ImportTable

open QualifiedName (simpleName)

variable {table : ImportTable} {requests : NewImports}

/-- Spelling a type asks for no static member. -/
theorem statics_qualify (table : ImportTable) (name : String) (needed : NewImports) :
    (table.qualify name needed).2.statics = needed.statics := by
  rw [qualify_needed]
  split
  · rfl
  · rfl

theorem statics_spellTypes (table : ImportTable) (names : List String) (needed : NewImports) :
    (CallSite.spellTypes table names needed).2.statics = needed.statics := by
  induction names generalizing needed with
  | nil => rfl
  | cons name names ih => exact (ih _).trans (statics_qualify table name needed)

/-- Spelling types asks for nothing exactly if the file can or need import none of them. -/
theorem types_spellTypes_eq_nil_iff {names : List String} :
    (CallSite.spellTypes table names .none).2.types = [] ↔
      ∀ name ∈ names, table.canImport name = false := by
  have hmem : ∀ x, x ∈ (CallSite.spellTypes table names .none).2.types ↔
      table.importFor? names (simpleName x) = some x := by
    intro x
    rw [mem_types_spellTypes_iff]
    simp [NewImports.none, clashes]
  constructor
  · intro hnil name hname
    by_contra hcan
    have hfind : (table.importFor? names (simpleName name)).isSome = true :=
      List.find?_isSome.mpr ⟨name, hname, by simpa using hcan⟩
    obtain ⟨x, hx⟩ := Option.isSome_iff_exists.mp hfind
    have hsame : table.canImport x = true ∧ simpleName x = simpleName name := by
      simpa using List.find?_some hx
    have himported := (hmem x).mpr (by rw [hsame.2, hx])
    rw [hnil] at himported
    cases himported
  · intro hnone
    rw [List.eq_nil_iff_forall_not_mem]
    intro x hx
    have hfind := (hmem x).mp hx
    have hcan : table.canImport x = true ∧ simpleName x = simpleName x := by
      simpa using List.find?_some hfind
    rw [hnone x (List.mem_of_find?_eq_some hfind)] at hcan
    cases hcan.1

/-- Types that the file has to import are never provided for, so that nothing is inserted exactly if
none are asked for and the file has the static members. -/
theorem Adds.insertion?_eq_none_iff (h : table.Adds requests.types) {source : String} :
    table.insertion? source requests = none ↔
      requests.types = [] ∧ ∀ member ∈ requests.statics, member ∈ table.staticImports := by
  rw [ImportTable.insertion?_eq_none_iff, missingLines_eq_nil_iff]
  refine and_congr_left fun _ => ⟨fun hprovided => ?_, fun hnil => by simp [hnil]⟩
  rw [List.eq_nil_iff_forall_not_mem]
  intro name hname
  have hlacks := Finding.filter_eq_self_of_canImport h.canImport
  rw [List.filter_eq_self] at hlacks
  have hlacks := hlacks name hname
  rcases hprovided name hname with hp | hp <;> simp [hp] at hlacks

end ImportTable

/-- Whether a fix has been asked to compile, and did. -/
structure Inspection.IsVerified (inspection : Inspection) (collaborators : Collaborators)
    (fix : Fix) : Prop where
  asked : inspection.compileQueries = [fix]
  answer : ∃ compiles, collaborators.compiles = some compiles ∧ compiles fix = true

namespace CallSite

variable {site : CallSite} {t : Template} {settings : Settings} {table : ImportTable}
  {collaborators : Collaborators} {finding : Finding}

/-- The fix of a call asks for the static members of the template, whatever the file has. -/
theorem mem_statics_callFix {member : String} :
    member ∈ (site.callFix t table).imports.statics ↔ member ∈ t.staticImports := by
  unfold callFix
  simp only
  rw [NewImports.mem_statics_foldl_addStatic, ImportTable.statics_spellTypes]
  simp [NewImports.none]

theorem statics_callFix_eq_nil_iff :
    (site.callFix t table).imports.statics = [] ↔ t.staticImports = [] := by
  simp only [List.eq_nil_iff_forall_not_mem, mem_statics_callFix]

theorem adds_callFix (site : CallSite) (t : Template) (table : ImportTable) :
    table.Adds (site.callFix t table).imports.types := by
  rw [types_callFix]
  exact ImportTable.adds_spellTypes t.imports (ImportTable.adds_nil table)

/-- Nothing is inserted for the fix of a call exactly if the file can or need import none of the
template's types and has all its static members. -/
theorem insertion?_callFix_eq_none_iff {source : String} :
    table.insertion? source (site.callFix t table).imports = none ↔
      (∀ name ∈ t.imports, table.canImport name = false) ∧
        ∀ member ∈ t.staticImports, member ∈ table.staticImports := by
  rw [(adds_callFix site t table).insertion?_eq_none_iff, types_callFix,
    ImportTable.types_spellTypes_eq_nil_iff]
  simp only [mem_statics_callFix]

/-- The fix of a call asks for imports exactly if something is inserted for it or the template has
static members. -/
theorem addsImports_callFix_iff {source : String} :
    (site.callFix t table).addsImports = true ↔
      table.insertion? source (site.callFix t table).imports ≠ none ∨ t.staticImports ≠ [] := by
  rw [Fix.addsImports, Bool.not_eq_true', Bool.eq_false_iff, ne_eq, NewImports.isEmpty_iff,
    statics_callFix_eq_nil_iff, ne_eq, (adds_callFix site t table).insertion?_eq_none_iff,
    ← not_and_or, not_iff_not]
  simp only [mem_statics_callFix]
  constructor
  · rintro ⟨htypes, hstatics⟩
    exact ⟨⟨htypes, by simp [hstatics]⟩, hstatics⟩
  · rintro ⟨⟨htypes, -⟩, hstatics⟩
    exact ⟨htypes, hstatics⟩

/-- Where fixes must be seen to compile, a call that keeps its statement is found with its own fix,
and either that fix asks for imports and nobody has been asked, or it has been seen to compile. -/
theorem fix_of_found (hchecked : settings.checkFixCompiles = true)
    (hfound : (site.inline (some t) settings table collaborators).verdict = .found finding)
    (hkept : ∀ statement receiver, site.IsPassThrough t statement receiver →
      collaborators.hasSideEffect receiver = true) :
    finding.fix = site.callFix t table ∧
      (finding.fix.addsImports = true ∧
          (site.inline (some t) settings table collaborators).compileQueries = [] ∨
        finding.fix.addsImports = false ∧
          (site.inline (some t) settings table collaborators).IsVerified collaborators
            finding.fix) := by
  obtain ⟨t', ht, -, ⟨statement, receiver, hpass, hpure, -⟩ | ⟨-, rfl, hconfirmed⟩⟩ :=
    verdict_inline hfound
  · obtain rfl := Option.some.inj ht
    rw [hkept statement receiver hpass] at hpure
    cases hpure
  · obtain rfl := Option.some.inj ht
    refine ⟨rfl, ?_⟩
    generalize hasked : (site.inline (some t) settings table collaborators).compileQueries = asked
      at hconfirmed ⊢
    cases hconfirmed with
    | unchecked h =>
        left
        refine ⟨?_, rfl⟩
        by_contra hadds
        exact h ⟨hchecked, Bool.eq_false_iff.mpr hadds⟩
    | accepted h hsome hfix => exact Or.inr ⟨h.noImports, hasked, _, hsome, hfix⟩

/-- **Which fixes are seen to compile.** Let a call that keeps its statement be found where fixes
must be seen to compile. Nothing is inserted for its fix exactly if the file can or need import none
of the template's types and has all its static members. The fix has been seen to compile exactly if
in addition the template has no static members; else nobody has been asked. -/
theorem isVerified_iff_of_found {source : String} {site : CallSite} {t : Template}
    {settings : Settings} {collaborators : Collaborators} {finding : Finding}
    (hchecked : settings.checkFixCompiles = true)
    (hfound : (site.inline (some t) settings (.ofSource source) collaborators).verdict =
      .found finding)
    (hkept : ∀ statement receiver, site.IsPassThrough t statement receiver →
      collaborators.hasSideEffect receiver = true) :
    let table := ImportTable.ofSource source
    let inspection := site.inline (some t) settings table collaborators
    (table.insertion? source finding.fix.imports = none ↔
        (∀ name ∈ t.imports, table.canImport name = false) ∧
          ∀ member ∈ t.staticImports, member ∈ table.staticImports) ∧
      (finding.fix.addsImports = true ↔
        table.insertion? source finding.fix.imports ≠ none ∨ t.staticImports ≠ []) ∧
      (inspection.IsVerified collaborators finding.fix ↔
        table.insertion? source finding.fix.imports = none ∧ t.staticImports = []) ∧
      (inspection.compileQueries = [] ↔ finding.fix.addsImports = true) := by
  intro table inspection
  obtain ⟨hfix, houtcome⟩ := fix_of_found hchecked hfound hkept
  have hadds : finding.fix.addsImports = true ↔
      table.insertion? source finding.fix.imports ≠ none ∨ t.staticImports ≠ [] :=
    hfix ▸ addsImports_callFix_iff
  have hverified : inspection.IsVerified collaborators finding.fix ↔
      ¬ finding.fix.addsImports = true := by
    rcases houtcome with ⟨hadds, hasked⟩ | ⟨hnone, hverified⟩
    · refine ⟨fun hverified => ?_, fun hnone => absurd hadds hnone⟩
      cases hasked.symm.trans hverified.asked
    · exact ⟨fun _ => Bool.eq_false_iff.mp hnone, fun _ => hverified⟩
  have hunasked : inspection.compileQueries = [] ↔ finding.fix.addsImports = true := by
    rcases houtcome with ⟨hadds, hasked⟩ | ⟨hnone, hverified⟩
    · exact ⟨fun _ => hadds, fun _ => hasked⟩
    · refine ⟨fun hasked => ?_, fun hadds => absurd hadds (Bool.eq_false_iff.mp hnone)⟩
      cases hasked.symm.trans hverified.asked
  refine ⟨?lines, hadds, ?verified, hunasked⟩
  case lines => exact hfix ▸ insertion?_callFix_eq_none_iff
  case verified => rw [hverified, hadds, not_or, not_not, not_not]

/-- A file that imports a static member and holds one call. -/
def importedAlready : String :=
  "import static p.A.m;\n\nclass C \x7b void m() \x7b x.f(); \x7d \x7d\n"

/-- A template with that member. -/
def memberTemplate : Template :=
  { Finding.importing [] "m(this)" rfl with staticImports := ["p.A.m"] }

/-- The settings where fixes must be seen to compile. -/
def checkedSettings : Settings := { Settings.default with checkFixCompiles := true }

/-- The call of that file, inlined where no fix compiles. -/
def inspectedAlready : Inspection :=
  (Finding.oldCall "f" "x" 43).inline (some memberTemplate) checkedSettings
    (.ofSource importedAlready) ⟨fun _ => true, some fun _ => false⟩

/-- The call is found though no fix compiles and though nothing is inserted for this one. -/
theorem unverified_importedAlready :
    inspectedAlready.verdict.finding?.map (·.fix) =
        some ⟨⟨⟨43, 48⟩, "m(x)"⟩, ⟨[], ["p.A.m"]⟩⟩ ∧
      inspectedAlready.compileQueries = [] ∧
      (ImportTable.ofSource importedAlready).insertion? importedAlready ⟨[], ["p.A.m"]⟩ = none := by
  decide +kernel

/-- That fix asks for an import only by the static member of its template. -/
theorem isVerified_iff_importedAlready :
    ∃ finding, inspectedAlready.verdict = .found finding ∧ finding.fix.addsImports = true ∧
      ¬ inspectedAlready.IsVerified ⟨fun _ => true, some fun _ => false⟩ finding.fix := by
  have hsome : inspectedAlready.verdict.finding?.isSome = true := by decide +kernel
  obtain ⟨finding, hfinding⟩ := Option.isSome_iff_exists.mp hsome
  have hverdict : inspectedAlready.verdict = .found finding :=
    Verdict.finding?_eq_some_iff.mp hfinding
  have hstatics : memberTemplate.staticImports ≠ [] := by decide
  obtain ⟨-, hadds, hverified, -⟩ := isVerified_iff_of_found rfl hverdict
    fun statement receiver hpass => absurd hpass.template (by decide)
  exact ⟨finding, hverdict, hadds.mpr (Or.inr hstatics), fun h => hstatics (hverified.mp h).2⟩

end CallSite

end CallMigration
