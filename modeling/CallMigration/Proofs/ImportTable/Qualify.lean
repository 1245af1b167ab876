import CallMigration.ImportTable
import CallMigration.Inlining

/-!
# The imports that spelling types asks for

Each type that a template imports is spelled in turn, and each may ask for one more import. The
invariant of this run is that the imports asked for are new to the file and free of clashes, among
themselves and with the imports that the file has (`ImportTable.Adds`).

* `adds_qualify`: spelling one type keeps the invariant;
* `adds_spellTypes`: so does spelling the types of a template;
* `mem_types_spellTypes_iff`: of several types with one simple name only the first is imported that
  the file has to import.
-/

namespace CallMigration

namespace QualifiedName

/-- Whether names taken from two lists differ in their simple names unless they are the same. -/
def Agree (names names' : List String) : Prop :=
  ∀ a ∈ names, ∀ b ∈ names', simpleName a = simpleName b → a = b

/-- Whether no two of some names have one simple name. -/
def ClashFree (names : List String) : Prop := Agree names names

end QualifiedName

namespace NewImports

theorem mem_foldl_pushNew {items more : List String} {x : String} :
    x ∈ more.foldl pushNew items ↔ x ∈ items ∨ x ∈ more := by
  induction more generalizing items with
  | nil => simp
  | cons item more ih =>
      rw [List.foldl_cons, ih, mem_pushNew, List.mem_cons, or_assoc]

@[simp] theorem mem_types_merge {n more : NewImports} {x : String} :
    x ∈ (n.merge more).types ↔ x ∈ n.types ∨ x ∈ more.types := mem_foldl_pushNew

@[simp] theorem mem_statics_merge {n more : NewImports} {x : String} :
    x ∈ (n.merge more).statics ↔ x ∈ n.statics ∨ x ∈ more.statics := mem_foldl_pushNew

@[simp] theorem mem_types_addType {n : NewImports} {name x : String} :
    x ∈ (n.addType name).types ↔ x ∈ n.types ∨ x = name := mem_pushNew

@[simp] theorem types_foldl_addStatic (members : List String) (n : NewImports) :
    (members.foldl addStatic n).types = n.types := by
  induction members generalizing n with
  | nil => rfl
  | cons member members ih => rw [List.foldl_cons, ih, addStatic]

end NewImports

namespace ImportTable

open QualifiedName (simpleName Agree ClashFree)

variable {table : ImportTable} {needed : NewImports} {name : String}

theorem clashes_eq_false_iff {imports : List String} :
    clashes imports name = false ↔ ∀ i ∈ imports, simpleName i = simpleName name → i = name := by
  simp only [clashes, List.any_eq_false, Bool.and_eq_true, bne_iff_ne, beq_iff_eq, not_and]
  exact forall₂_congr fun _ _ => Decidable.not_imp_not

/-- Whether the file has to import a type so that its simple name can be used, and can do so. -/
def canImport (table : ImportTable) (name : String) : Bool :=
  !table.declaresOther name && !table.isVisible name && !clashes table.imports name

/-- **What spelling a type asks for.** The type itself, where the file has to import it and
no import asked for before has its simple name. -/
theorem qualify_needed (table : ImportTable) (name : String) (needed : NewImports) :
    (table.qualify name needed).2 =
      if table.canImport name && !clashes needed.types name then needed.addType name
      else needed := by
  unfold qualify canImport
  cases table.declaresOther name <;> cases table.isVisible name <;>
    cases clashes table.imports name <;> cases clashes needed.types name <;> rfl

/-- Which of some types the file comes to import under a simple name. -/
def importFor? (table : ImportTable) (names : List String) (simple : String) : Option String :=
  names.find? fun name => table.canImport name && simpleName name == simple

/-- The imports that may be added to a file together: they are free of clashes, and each of them is
one that the file has to import and can. -/
structure Adds (table : ImportTable) (names : List String) : Prop where
  clashFree : ClashFree names
  canImport : ∀ name ∈ names, table.canImport name = true

theorem adds_nil (table : ImportTable) : table.Adds [] :=
  ⟨by simp [ClashFree, Agree], by simp⟩

/-- Spelling a type keeps the imports asked for fit to be added. -/
theorem adds_qualify (h : table.Adds needed.types) (name : String) :
    table.Adds (table.qualify name needed).2.types := by
  rw [qualify_needed]
  split
  · next hadd =>
      obtain ⟨hcan, hapart⟩ : table.canImport name = true ∧ clashes needed.types name = false := by
        simpa using hadd
      rw [clashes_eq_false_iff] at hapart
      constructor
      · intro a ha b hb hsimple
        rw [NewImports.mem_types_addType] at ha hb
        rcases ha with ha | rfl <;> rcases hb with hb | rfl
        · exact h.clashFree a ha b hb hsimple
        · exact hapart a ha hsimple
        · exact (hapart b hb hsimple.symm).symm
        · rfl
      · intro a ha
        rcases NewImports.mem_types_addType.mp ha with ha | rfl
        · exact h.canImport a ha
        · exact hcan
  · exact h

/-- Spelling the types of a template, too, asks for imports that are fit to be added. -/
theorem adds_spellTypes (names : List String) (h : table.Adds needed.types) :
    table.Adds (CallSite.spellTypes table names needed).2.types := by
  induction names generalizing needed with
  | nil => exact h
  | cons name names ih => exact ih (adds_qualify h name)

theorem clashes_addType {x : String} :
    clashes (needed.addType name).types x = false ↔
      clashes needed.types x = false ∧ (simpleName name = simpleName x → name = x) := by
  simp only [clashes_eq_false_iff, NewImports.mem_types_addType]
  constructor
  · intro h
    exact ⟨fun i hi => h i (Or.inl hi), h name (Or.inr rfl)⟩
  · intro h i hi
    rcases hi with hi | rfl
    · exact h.1 i hi
    · exact h.2

/-- Two names with one simple name clash with the same imports, but for the names themselves. -/
theorem mem_of_clashes {x : String} (hsimple : simpleName name = simpleName x)
    (hname : clashes needed.types name = true) (hx : clashes needed.types x = false) :
    x ∈ needed.types := by
  obtain ⟨i, hi, hclash⟩ := List.any_eq_true.mp hname
  obtain ⟨-, hsame⟩ : i ≠ name ∧ simpleName i = simpleName name := by simpa using hclash
  rw [← clashes_eq_false_iff.mp hx i hi (hsame.trans hsimple)]
  exact hi

/-- **The first of a simple name is imported.** What spelling types asks for in addition are those
of them that come first among those with their simple name, unless an import asked for before has
that name. -/
theorem mem_types_spellTypes_iff {names : List String} {x : String} :
    x ∈ (CallSite.spellTypes table names needed).2.types ↔
      x ∈ needed.types ∨
        clashes needed.types x = false ∧ table.importFor? names (simpleName x) = some x := by
  induction names generalizing needed with
  | nil => simp [CallSite.spellTypes, importFor?]
  | cons name names ih =>
      have hstep : x ∈ (CallSite.spellTypes table (name :: names) needed).2.types ↔
          x ∈ (CallSite.spellTypes table names (table.qualify name needed).2).2.types := Iff.rfl
      rw [hstep, ih, qualify_needed]
      unfold importFor?
      rw [List.find?_cons]
      cases hsame : table.canImport name && simpleName name == simpleName x with
      | true =>
          obtain ⟨hcan, hsimple⟩ : table.canImport name = true ∧ simpleName name = simpleName x := by
            simpa using hsame
          cases hclash : clashes needed.types name with
          | true =>
              have hmem := mem_of_clashes hsimple hclash
              have hneeded : ∀ p : Prop,
                  x ∈ needed.types ∨ clashes needed.types x = false ∧ p ↔ x ∈ needed.types :=
                fun p => ⟨fun h => h.elim id fun h => hmem h.1, Or.inl⟩
              rw [if_neg (by simp), hneeded, hneeded]
          | false =>
              rw [if_pos (by simp [hcan]), NewImports.mem_types_addType, clashes_addType]
              constructor
              · intro h
                rcases h with (h | rfl) | ⟨⟨h, hname⟩, -⟩
                · exact Or.inl h
                · exact Or.inr ⟨hclash, rfl⟩
                · exact Or.inr ⟨h, congrArg some (hname hsimple)⟩
              · intro h
                rcases h with h | ⟨-, h⟩
                · exact Or.inl (Or.inl h)
                · exact Or.inl (Or.inr (Option.some.inj h).symm)
      | false =>
          split
          · next hadd =>
              have hsimple : simpleName name ≠ simpleName x := by
                intro heq
                simp_all
              have hne : x ≠ name := fun heq => hsimple (by rw [heq])
              simp [NewImports.mem_types_addType, clashes_addType, hne, hsimple]
          · rfl

end ImportTable

end CallMigration
