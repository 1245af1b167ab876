import CallMigration.Proofs.Edit.Batch
import CallMigration.Proofs.Finding.Imports
import CallMigration.Proofs.ImportTable.Place

/-!
# Whether the imports of accepted findings arrive

The imports that a file lacks are added by one edit, which comes behind the edits of the accepted
findings and is put off like any other edit where it overlaps one of them. What is put off here is
lost: nothing but the result of the edits is kept. This happens exactly if an accepted edit reaches
across the place for imports or inserts at it (`Finding.applyAll_insertion`).
-/

namespace CallMigration

namespace Edit

/-- Whether the edit leaves no room for an insertion at an offset: it replaces text on both sides of
it or inserts there itself. -/
def Bars (e : Edit) (offset : Nat) : Prop :=
  e.range.start < offset ∧ offset < e.range.stop ∨
    e.range.start = offset ∧ e.range.stop = offset

theorem overlaps_insertion_iff {e : Edit} {offset : Nat} {text : String} :
    e.overlaps (.insertion offset text) = true ↔ e.Bars offset := by
  rw [overlaps_iff, Bars, insertion]
  simp only
  omega

end Edit

namespace Finding

variable {source : String} {findings : List Finding}

theorem pairwise_edits_select (findings : List Finding) :
    ((select findings).accepted.map edit).Pairwise fun e f => e.overlaps f = false :=
  List.pairwise_map.mpr (Selection.pairwise_firstCome findings)

/-- Findings are applied by a batch of edits. -/
theorem exists_applyAll_editsOf {fixed : FixedSource} (h : applyAll source findings = .ok fixed) :
    ∃ result, Edit.applyAll source (editsOf source (select findings).accepted) = .ok result ∧
      fixed.source = result.source := by
  rw [applyAll_eq] at h
  split at h
  · cases h
  · split at h
    · cases h
    · next result hresult => exact ⟨result, hresult, by rw [← Except.ok.inj h]⟩

/-- Whether an accepted finding leaves no room for the imports. -/
def ImportsBarred (source : String) (accepted : List Finding) : Prop :=
  ∃ f ∈ accepted, f.edit.Bars (ImportTable.ofSource source).insertionPoint

/-- The lines that a source lacks for what accepted findings ask for. -/
def missingLines (source : String) (accepted : List Finding) : List Char :=
  (ImportTable.ofSource source).missingLines (requestedImports accepted)

/-- Nothing is put off where there is room for the imports or none are missing, and else exactly the
edit that adds them. -/
theorem firstCome_editsOf (source : String) (findings : List Finding) :
    ((missingLines source (select findings).accepted = [] ∨
        ¬ ImportsBarred source (select findings).accepted) ∧
      Selection.firstCome Edit.overlaps (editsOf source (select findings).accepted) =
        ⟨editsOf source (select findings).accepted, []⟩) ∨
    (missingLines source (select findings).accepted ≠ [] ∧
      ImportsBarred source (select findings).accepted ∧
      ∃ e, Selection.firstCome Edit.overlaps (editsOf source (select findings).accepted) =
        ⟨(select findings).accepted.map edit, [e]⟩) := by
  have hpair := pairwise_edits_select findings
  -- From here on, all that matters about the accepted findings is that their edits do not overlap.
  generalize (select findings).accepted = accepted at hpair ⊢
  unfold editsOf
  by_cases hlines : missingLines source accepted = []
  · left
    rw [ImportTable.insertion?_eq_none hlines, Option.toList_none, List.append_nil]
    exact ⟨Or.inl hlines, Selection.firstCome_of_pairwise hpair⟩
  · obtain ⟨text, hinsertion, -⟩ := ImportTable.insertion?_eq_some source hlines
    rw [hinsertion, Option.toList_some, Selection.firstCome_append_singleton hpair]
    have hbarred : (accepted.map edit).any (·.overlaps
        (.insertion (ImportTable.ofSource source).insertionPoint text)) = true ↔
        ImportsBarred source accepted := by
      simp [ImportsBarred, Edit.overlaps_insertion_iff]
    by_cases hbars : ImportsBarred source accepted
    · right
      rw [if_pos (hbarred.mpr hbars)]
      exact ⟨hlines, hbars, _, rfl⟩
    · left
      rw [if_neg (fun h => hbars (hbarred.mp h))]
      exact ⟨Or.inr hbars, rfl⟩

/-- Where all edits are made, every import that the file lacks has its line in the result. -/
theorem lines_infix_splice {accepted : List Finding}
    (hvalid : ∀ e ∈ editsOf source accepted, e.validate source = .ok ()) :
    missingLines source accepted <:+:
      (Edit.splice source (editsOf source accepted)).toList := by
  by_cases hlines : missingLines source accepted = []
  · rw [hlines]
    exact List.nil_infix
  · obtain ⟨text, hinsertion, htext⟩ := ImportTable.insertion?_eq_some source hlines
    have hmem : Edit.insertion (ImportTable.ofSource source).insertionPoint text ∈
        editsOf source accepted := by
      rw [editsOf, hinsertion]
      exact List.mem_append_right _ (List.mem_singleton.mpr rfl)
    have hmade := Edit.infix_splice hmem (by simp [Edit.isInsertion, Edit.insertion])
      (hvalid _ hmem)
    exact htext.trans hmade

/-- **When imports are lost.** Applying findings makes one batch of edits. Nothing in it is put off
exactly if no import is missing or no accepted finding bars the place for imports; then every type
and every static member that an accepted finding asks for, and that the file does not provide for,
has its line in the result. Otherwise the result is what the accepted findings make of the source
without any import. -/
theorem applyAll_insertion {source : String} {findings : List Finding} {fixed : FixedSource}
    (h : applyAll source findings = .ok fixed) :
    ∃ result, Edit.applyAll source (editsOf source (select findings).accepted) = .ok result ∧
      fixed.source = result.source ∧
      (result.deferred = [] ↔ missingLines source (select findings).accepted = [] ∨
        ¬ ImportsBarred source (select findings).accepted) ∧
      (result.deferred = [] → ∀ f ∈ (select findings).accepted,
        (∀ name ∈ f.fix.imports.types, name ∉ (ImportTable.ofSource source).imports →
          (ImportTable.ofSource source).isVisible name = false →
            ImportTable.typeLine name <:+: fixed.source.toList) ∧
        (∀ member ∈ f.fix.imports.statics, member ∉ (ImportTable.ofSource source).staticImports →
            ImportTable.staticLine member <:+: fixed.source.toList)) ∧
      (result.deferred ≠ [] →
        fixed.source = Edit.splice source ((select findings).accepted.map edit)) := by
  obtain ⟨result, hresult, hfixed⟩ := exists_applyAll_editsOf h
  have hvalid := Edit.validate_of_applyAll hresult
  have hselected := Edit.applyAll_of_valid hvalid
  rw [hresult] at hselected
  refine ⟨result, hresult, hfixed, ?_⟩
  rcases firstCome_editsOf source findings with ⟨hroom, hserved⟩ | ⟨hlines, hbars, e, hserved⟩
  · have hfree : (Selection.firstCome Edit.overlaps
        (editsOf source (select findings).accepted)).accepted.Pairwise
        fun e f => e.overlaps f = false := Selection.pairwise_firstCome _
    rw [hserved] at hselected hfree
    obtain rfl := Except.ok.inj hselected
    have hinfix := lines_infix_splice hvalid
    have hmade : fixed.source = Edit.splice source (editsOf source (select findings).accepted) :=
      hfixed.trans (Edit.makeAll_eq_splice hvalid hfree)
    rw [← hmade] at hinfix
    refine ⟨⟨fun _ => hroom, fun _ => rfl⟩, ?_, fun hne => absurd rfl hne⟩
    intro _ f hf
    refine ⟨fun name hname himports hvisible => ?_, fun member hmember himports => ?_⟩
    · exact (ImportTable.typeLine_infix_missingLines
        (mem_types_requestedImports.mpr ⟨f, hf, hname⟩) himports hvisible).trans hinfix
    · exact (ImportTable.staticLine_infix_missingLines
        (mem_statics_requestedImports.mpr ⟨f, hf, hmember⟩) himports).trans hinfix
  · rw [hserved] at hselected
    obtain rfl := Except.ok.inj hselected
    have hmade := Edit.makeAll_eq_splice (fun e he => hvalid e (List.mem_append_left _ he))
      (pairwise_edits_select findings)
    refine ⟨⟨fun hnone => absurd hnone (by simp), ?_⟩, fun hnone => absurd hnone (by simp),
      fun _ => hfixed.trans hmade⟩
    intro hroom
    rcases hroom with hnone | hroom
    · exact absurd hnone hlines
    · exact absurd hbars hroom

/-- A call whose argument is a text block with a line that looks like an import, in a file that has
none; the template of the call imports a type. -/
def acrossLines : LoadedManifest where
  sourcePath := ⟨"A.java"⟩
  source := "class A \x7b Object o = x.old(\"\"\"\nimport z;\n\"\"\"); \x7d\n"
  entries :=
    [{ site :=
        { kind := .method (some ⟨⟨21, 22⟩, "x"⟩) none
          target := ⟨"w.W", "old", "w", ["a"], false, false, false⟩
          arguments := ["\"\"\"\nimport z;\n\"\"\""]
          call := ⟨⟨21, 45⟩, "x.old(\"\"\"\nimport z;\n\"\"\")"⟩
          statement := none
          arguments_fit := rfl
          receiver_within := rfl }
       template := some (importing ["r.B"] "B.fresh(this, a)" rfl) }]
  answers := []

/-- The call is replaced, its template asks for an import that the file lacks, and the result has
none. -/
theorem import_lost_acrossLines :
    (applyAll acrossLines.source (acrossLines.findings .default none)).toOption =
        some ⟨"class A \x7b Object o = B.fresh(x, \"\"\"\nimport z;\n\"\"\"); \x7d\n", 1, 0⟩ ∧
      (requestedImports (select (acrossLines.findings .default none)).accepted).types = ["r.B"] ∧
      "r.B" ∉ (ImportTable.ofSource acrossLines.source).imports ∧
      (ImportTable.ofSource acrossLines.source).isVisible "r.B" = false ∧
      ((Edit.applyAll acrossLines.source (editsOf acrossLines.source
        (select (acrossLines.findings .default none)).accepted)).toOption.map (·.deferred)) =
          some [.insertion 41 "import r.B;\n"] := by
  decide +kernel

/-- The edits of that call, of which one is put off. -/
theorem applyAll_insertion_acrossLines :
    ∃ fixed, applyAll acrossLines.source (acrossLines.findings .default none) = .ok fixed ∧
      fixed.source = Edit.splice acrossLines.source
        ((select (acrossLines.findings .default none)).accepted.map edit) := by
  have hsucceeds : (applyAll acrossLines.source
      (acrossLines.findings .default none)).toOption.isSome = true := by
    decide +kernel
  cases hfixed : applyAll acrossLines.source (acrossLines.findings .default none) with
  | error cause =>
      rw [hfixed] at hsucceeds
      cases hsucceeds
  | ok fixed =>
      obtain ⟨result, -, -, hdeferred, -, hlost⟩ := applyAll_insertion hfixed
      refine ⟨fixed, rfl, hlost fun hnone => ?_⟩
      have hbarred : ((select (acrossLines.findings .default none)).accepted.any fun f =>
          f.edit.overlaps (.insertion
            (ImportTable.ofSource acrossLines.source).insertionPoint "")) = true := by
        decide +kernel
      have hlines : missingLines acrossLines.source
          (select (acrossLines.findings .default none)).accepted ≠ [] := by
        decide +kernel
      obtain ⟨f, hf, hbars⟩ := List.any_eq_true.mp hbarred
      rcases hdeferred.mp hnone with hempty | hroom
      · exact hlines hempty
      · exact hroom ⟨f, hf, Edit.overlaps_insertion_iff.mp hbars⟩

end Finding

end CallMigration
