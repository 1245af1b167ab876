import CallMigration.Finding.Application
import CallMigration.Proofs.Edit.Selection
import CallMigration.Proofs.Inlining
import Mathlib.Logic.Basic

/-!
# The imports of accepted findings

Every fix is made on its own, so that its imports are free of clashes, but only applying findings
brings the imports of different fixes together. What is merged then can clash: the file gets imports
of two types with one simple name exactly if two templates of accepted findings import different
types under that name (`Finding.clashes_requestedImports_iff`).
-/

namespace CallMigration

open QualifiedName (simpleName Agree ClashFree)

namespace Finding

variable {findings : List Finding} {name : String}

/-- Merging keeps what was asked for before and adds what the findings ask for. -/
theorem mem_foldl_merge {needed : NewImports} :
    let merged := findings.foldl (fun requests f => requests.merge f.fix.imports) needed
    (name ∈ merged.types ↔
        name ∈ needed.types ∨ ∃ f ∈ findings, name ∈ f.fix.imports.types) ∧
      (name ∈ merged.statics ↔
        name ∈ needed.statics ∨ ∃ f ∈ findings, name ∈ f.fix.imports.statics) := by
  induction findings generalizing needed with
  | nil => simp
  | cons f findings ih => simp [ih, or_assoc]

theorem mem_types_requestedImports :
    name ∈ (requestedImports findings).types ↔ ∃ f ∈ findings, name ∈ f.fix.imports.types := by
  simp [requestedImports, mem_foldl_merge, NewImports.none]

theorem mem_statics_requestedImports :
    name ∈ (requestedImports findings).statics ↔ ∃ f ∈ findings, name ∈ f.fix.imports.statics := by
  simp [requestedImports, mem_foldl_merge, NewImports.none]

/-- What is asked for is free of clashes when the findings agree with one another. -/
theorem clashFree_requestedImports_iff :
    ClashFree (requestedImports findings).types ↔
      ∀ f ∈ findings, ∀ g ∈ findings, Agree f.fix.imports.types g.fix.imports.types := by
  constructor
  · intro h f hf g hg a ha b hb
    exact h a (mem_types_requestedImports.mpr ⟨f, hf, ha⟩) b
      (mem_types_requestedImports.mpr ⟨g, hg, hb⟩)
  · intro h a ha b hb
    obtain ⟨f, hf, ha⟩ := mem_types_requestedImports.mp ha
    obtain ⟨g, hg, hb⟩ := mem_types_requestedImports.mp hb
    exact h f hf g hg a ha b hb

/-- A file gets a line for every import that it can add. -/
theorem filter_eq_self_of_canImport {table : ImportTable} {names : List String}
    (h : ∀ name ∈ names, table.canImport name = true) :
    names.filter (fun name => !table.imports.contains name && !table.isVisible name) = names := by
  rw [List.filter_eq_self]
  intro name hname
  have hvisible : table.isVisible name = false := by
    have := h name hname
    simp only [ImportTable.canImport, Bool.and_eq_true, Bool.not_eq_true'] at this
    exact this.1.2
  have himported : name ∉ table.imports := by
    intro hmem
    rw [ImportTable.isVisible, Bool.or_eq_false_iff, List.any_eq_false] at hvisible
    simpa using hvisible.2 name hmem
  simp [hvisible, himported]

/-- **When imports clash.** Of findings made for a file, the accepted ones ask for different types
of one simple name exactly if two of them are due to templates that each import one of the types
under that name. The imports of a single finding never clash, with one another or with those of the
file, and everything that is asked for gets a line of its own. -/
theorem clashes_requestedImports_iff {source : String} {findings : List Finding}
    (hfound : ∀ f ∈ findings, f.fix.IsFoundIn (.ofSource source)) :
    (¬ ClashFree (requestedImports (select findings).accepted).types ↔
      ∃ f ∈ (select findings).accepted, ∃ g ∈ (select findings).accepted, ∃ t u a b,
        f.fix.IsDueTo (.ofSource source) t ∧ g.fix.IsDueTo (.ofSource source) u ∧
          simpleName a = simpleName b ∧ a ≠ b ∧
          (ImportTable.ofSource source).importFor? t.imports (simpleName a) = some a ∧
          (ImportTable.ofSource source).importFor? u.imports (simpleName b) = some b) ∧
      (∀ f ∈ findings, (ImportTable.ofSource source).Adds f.fix.imports.types) ∧
      (requestedImports (select findings).accepted).types.filter (fun name =>
          !(ImportTable.ofSource source).imports.contains name &&
            !(ImportTable.ofSource source).isVisible name) =
        (requestedImports (select findings).accepted).types := by
  have hmem : ∀ f ∈ (select findings).accepted, f ∈ findings :=
    fun f hf => (Selection.firstCome_sublist findings).subset hf
  have hadds : ∀ f ∈ findings, (ImportTable.ofSource source).Adds f.fix.imports.types :=
    fun f hf => Fix.adds_of_isFoundIn (hfound f hf)
  -- Only fixes due to a template ask for a type.
  have hdue : ∀ f ∈ (select findings).accepted, ∀ a ∈ f.fix.imports.types,
      ∃ t, f.fix.IsDueTo (.ofSource source) t := by
    intro f hf a ha
    rcases Fix.isDueTo_of_isFoundIn (hfound f (hmem f hf)) with hnone | hdue
    · rw [hnone] at ha
      cases ha
    · exact hdue
  refine ⟨?_, hadds, ?_⟩
  · rw [clashFree_requestedImports_iff]
    constructor
    · intro hclash
      simp only [Agree, not_forall] at hclash
      obtain ⟨f, hf, g, hg, a, ha, b, hb, hsimple, hne⟩ := hclash
      obtain ⟨t, ht⟩ := hdue f hf a ha
      obtain ⟨u, hu⟩ := hdue g hg b hb
      exact ⟨f, hf, g, hg, t, u, a, b, ht, hu, hsimple, hne, (Fix.mem_types_of_isDueTo ht).mp ha,
        (Fix.mem_types_of_isDueTo hu).mp hb⟩
    · intro hpair hfree
      obtain ⟨f, hf, g, hg, t, u, a, b, ht, hu, hsimple, hne, ha, hb⟩ := hpair
      exact hne (hfree f hf g hg a ((Fix.mem_types_of_isDueTo ht).mpr ha) b
        ((Fix.mem_types_of_isDueTo hu).mpr hb) hsimple)
  · apply filter_eq_self_of_canImport
    intro name hname
    obtain ⟨f, hf, hname⟩ := mem_types_requestedImports.mp hname
    exact (hadds f (hmem f hf)).canImport name hname

/-- A call of a method without parameters on a variable of one letter. -/
def oldCall (method receiver : String) (start : Nat) : CallSite where
  kind := .method (some ⟨⟨start, start + 1⟩, receiver⟩) none
  target := ⟨"w.W", method, "w", [], false, false, false⟩
  arguments := []
  call := ⟨⟨start, start + 5⟩, receiver ++ "." ++ method ++ "()"⟩
  statement := none
  arguments_fit := rfl
  receiver_within := by simp [CallKind.receiverWithin, CallKind.receiver?, TextRange.contains]

/-- A validated template that imports types only. -/
def importing (types : List String) (replacement : String)
    (h : isBlankText replacement = false) : Template :=
  ⟨replacement, types, [], none, h, rfl⟩

/-- A template that imports the type `A` of the package `p`. -/
def runTemplate : Template := importing ["p.A"] "A.run(this)" rfl

/-- A template that imports the type `A` of the package `q`. -/
def goTemplate : Template := importing ["q.A"] "A.go(this)" rfl

/-- Two calls in one file, each with a template that imports its own type `A`. -/
def rivals : LoadedManifest where
  sourcePath := ⟨"C.java"⟩
  source := "class C \x7b void m() \x7b x.f(); y.g(); \x7d \x7d\n"
  entries := [⟨oldCall "f" "x" 21, some runTemplate⟩, ⟨oldCall "g" "y" 28, some goTemplate⟩]
  answers := []

/-- Both fixes are accepted, each spells its own type `A`, and the file gets two imports of that
name. -/
theorem clashing_imports_rivals :
    (applyAll rivals.source (rivals.findings .default none)).toOption =
        some ⟨"import p.A;\nimport q.A;\n\n" ++
          "class C \x7b void m() \x7b A.run(x); A.go(y); \x7d \x7d\n", 2, 0⟩ ∧
      (requestedImports (select (rivals.findings .default none)).accepted).types =
        ["p.A", "q.A"] ∧
      simpleName "p.A" = simpleName "q.A" ∧ "p.A" ≠ "q.A" := by
  decide +kernel

/-- The condition under which imports clash holds of the two findings. -/
theorem clashes_requestedImports_rivals :
    (∀ f ∈ rivals.findings .default none, f.fix.IsFoundIn (.ofSource rivals.source)) ∧
      ¬ ClashFree (requestedImports (select (rivals.findings .default none)).accepted).types := by
  have hfound : ∀ f ∈ rivals.findings .default none,
      f.fix.IsFoundIn (.ofSource rivals.source) :=
    fun f hf => LoadedManifest.isFoundIn_of_mem_findings hf
  have hfixes : (select (rivals.findings .default none)).accepted.map (·.fix) =
      [(oldCall "f" "x" 21).callFix runTemplate (.ofSource rivals.source),
        (oldCall "g" "y" 28).callFix goTemplate (.ofSource rivals.source)] := by
    decide +kernel
  obtain ⟨f, hf, hrun⟩ := List.mem_map.mp (hfixes ▸ List.mem_cons_self)
  obtain ⟨g, hg, hgo⟩ := List.mem_map.mp (hfixes ▸ List.mem_cons_of_mem _ List.mem_cons_self)
  refine ⟨hfound, (clashes_requestedImports_iff hfound).1.mpr ?_⟩
  exact ⟨f, hf, g, hg, runTemplate, goTemplate, "p.A", "q.A", ⟨_, hrun⟩, ⟨_, hgo⟩,
    by decide +kernel⟩

end Finding

end CallMigration
