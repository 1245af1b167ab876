import CallMigration.Proofs.ImportTable.Shadowing
import Mathlib.Data.List.Nodup

/-!
# Spelling types one after another

Spelling a type may ask for an import, and what has been asked for decides how later types are
spelled. Still a type is spelled alike each time. What its spelling rests on
(`ImportTable.SpelledAs`) is found once the type has been spelled (`spelledAs_qualify`), it stays
when more imports are asked for (`SpelledAs.mono`), and as long as these are free of clashes it
fixes the spelling and asks for nothing (`SpelledAs.qualify_eq`).

The main statement is `qualify_neededAfter`: at every point of any sequence of types the imports
asked for can be added to the file together, each type gets its full or its simple name, and it gets
the same one whenever it comes again.
-/

namespace CallMigration

theorem NewImports.addType_of_mem {needed : NewImports} {name : String}
    (h : name ∈ needed.types) : needed.addType name = needed := by
  rw [addType, pushNew, if_pos (List.contains_iff_mem.mpr h)]

namespace ImportTable

open QualifiedName (simpleName)

variable {table : ImportTable} {needed more : NewImports} {name spelling : String}

theorem canImport_iff :
    table.canImport name = true ↔ table.declaresOther name = false ∧
      table.isVisible name = false ∧ clashes table.imports name = false := by
  simp [canImport, and_assoc]

/-- What the spelling of a type rests on, when certain imports have been asked for. -/
inductive SpelledAs (table : ImportTable) (needed : NewImports) (name : String) : String → Prop
  | declared (h : table.declaresOther name = true) : SpelledAs table needed name name
  | visible (hdeclares : table.declaresOther name = false) (h : table.isVisible name = true) :
      SpelledAs table needed name (simpleName name)
  | taken (hvisible : table.isVisible name = false)
      (h : clashes table.imports name = true ∨ clashes needed.types name = true) :
      SpelledAs table needed name name
  | asked (hcan : table.canImport name = true) (h : name ∈ needed.types) :
      SpelledAs table needed name (simpleName name)

namespace SpelledAs

/-- A type is spelled by its full name or by its simple name. -/
theorem eq_or_eq (h : table.SpelledAs needed name spelling) :
    spelling = name ∨ spelling = simpleName name := by
  cases h with
  | declared => exact Or.inl rfl
  | visible => exact Or.inr rfl
  | taken => exact Or.inl rfl
  | asked => exact Or.inr rfl

/-- A type that is not spelled by its full name is in scope or asked for. -/
theorem isInScope_or_mem (h : table.SpelledAs needed name spelling) (hne : spelling ≠ name) :
    table.IsInScope name ∨ name ∈ needed.types := by
  cases h with
  | declared => exact absurd rfl hne
  | visible _ h => exact Or.inl (isVisible_iff.mp h)
  | taken => exact absurd rfl hne
  | asked _ h => exact Or.inr h

/-- What a spelling rests on stays when more imports are asked for. -/
theorem mono (h : table.SpelledAs needed name spelling) (hmore : needed.types ⊆ more.types) :
    table.SpelledAs more name spelling := by
  cases h with
  | declared h => exact .declared h
  | visible hdeclares h => exact .visible hdeclares h
  | asked hcan h => exact .asked hcan (hmore h)
  | taken hvisible h =>
      refine .taken hvisible (h.imp_right fun hclash => ?_)
      obtain ⟨i, hi, hclash⟩ := List.any_eq_true.mp hclash
      exact List.any_eq_true.mpr ⟨i, hmore hi, hclash⟩

/-- What a spelling rests on decides it, and nothing is asked for then. -/
theorem qualify_eq (h : table.SpelledAs needed name spelling) (hfit : table.Adds needed.types) :
    table.qualify name needed = (spelling, needed) := by
  cases h with
  | declared h => simp [qualify, h]
  | visible hdeclares h => simp [qualify, hdeclares, h]
  | taken hvisible h =>
      rw [← Bool.or_eq_true] at h
      simp [qualify, hvisible, h]
  | asked hcan h =>
      have hapart : clashes needed.types name = false :=
        clashes_eq_false_iff.mpr fun i hi hsimple => hfit.clashFree i hi name h hsimple
      obtain ⟨hdeclares, hvisible, himports⟩ := canImport_iff.mp hcan
      simp [qualify, hdeclares, hvisible, himports, hapart, NewImports.addType_of_mem h]

end SpelledAs

/-- Once a type has been spelled, there is what its spelling rests on. -/
theorem spelledAs_qualify (table : ImportTable) (name : String) (needed : NewImports) :
    table.SpelledAs (table.qualify name needed).2 name (table.qualify name needed).1 := by
  unfold qualify
  simp only
  split
  · next hdeclares => exact .declared hdeclares
  · next hdeclares =>
      rw [Bool.not_eq_true] at hdeclares
      split
      · next hvisible => exact .visible hdeclares hvisible
      · next hvisible =>
          rw [Bool.not_eq_true] at hvisible
          split
          · next hclash => exact .taken hvisible (Bool.or_eq_true _ _ ▸ hclash)
          · next hfree =>
              have himports : clashes table.imports name = false := by simp_all
              exact .asked (canImport_iff.mpr ⟨hdeclares, hvisible, himports⟩)
                (NewImports.mem_types_addType.mpr (Or.inr rfl))

section Sequence

/-- The imports that have been asked for once some types have been spelled, one after another. -/
def neededAfter (table : ImportTable) (names : List String) : NewImports :=
  (CallSite.spellTypes table names .none).2

theorem types_subset_spellTypes (table : ImportTable) (names : List String)
    (needed : NewImports) : needed.types ⊆ (CallSite.spellTypes table names needed).2.types :=
  fun _ hx => mem_types_spellTypes_iff.mpr (Or.inl hx)

theorem needed_spellTypes_append (table : ImportTable) (names others : List String)
    (needed : NewImports) :
    (CallSite.spellTypes table (names ++ others) needed).2 =
      (CallSite.spellTypes table others (CallSite.spellTypes table names needed).2).2 := by
  induction names generalizing needed with
  | nil => rfl
  | cons name names ih => exact ih _

/-- After some types, one more and then others, what was asked for with that one is still there. -/
theorem types_subset_neededAfter (table : ImportTable) (earlier between : List String)
    (name : String) :
    (table.qualify name (table.neededAfter earlier)).2.types ⊆
      (table.neededAfter (earlier ++ name :: between)).types := by
  rw [neededAfter, neededAfter, needed_spellTypes_append]
  exact types_subset_spellTypes table between _

theorem adds_neededAfter (table : ImportTable) (names : List String) :
    table.Adds (table.neededAfter names).types :=
  adds_spellTypes names (adds_nil table)

theorem nodup_qualify (h : needed.types.Nodup) (name : String) :
    (table.qualify name needed).2.types.Nodup := by
  rw [qualify_needed]
  split
  · exact NewImports.nodup_pushNew name h
  · exact h

theorem nodup_spellTypes (names : List String) (h : needed.types.Nodup) :
    (CallSite.spellTypes table names needed).2.types.Nodup := by
  induction names generalizing needed with
  | nil => exact h
  | cons name names ih => exact ih (nodup_qualify h name)

/-- Types that a file can import together without further ado: each of them once, no two with one
simple name, none in scope already, and none with the simple name of another type that the file
imports. -/
structure ImportsFreely (table : ImportTable) (types : List String) : Prop where
  nodup : types.Nodup
  simpleNames : (types.map simpleName).Nodup
  unseen : ∀ type ∈ types, ¬ table.IsInScope type
  apart : ∀ type ∈ types, ∀ i ∈ table.imports, simpleName i = simpleName type → i = type

theorem Adds.importsFreely {types : List String} (h : table.Adds types) (hnodup : types.Nodup) :
    table.ImportsFreely types := by
  refine ⟨hnodup, hnodup.map_on h.clashFree, fun type htype hscope => ?_, fun type htype => ?_⟩
  · have hhidden := (canImport_iff.mp (h.canImport type htype)).2.1
    rw [isVisible_iff.mpr hscope] at hhidden
    cases hhidden
  · exact clashes_eq_false_iff.mp (canImport_iff.mp (h.canImport type htype)).2.2

/-- **Spelling types one after another.** Let the types of a sequence be spelled in a file,
beginning with no imports asked for. At every point of the sequence, the file can import freely what
has been asked for so far. The next type is spelled by its full or by its simple name, and if it is
not its full name, the type is in scope or asked for by then. From there on, whatever types come in
between, that type is always spelled alike and nothing more is asked for with it. -/
theorem qualify_neededAfter (source : String) (earlier : List String) (name : String) :
    let table := ImportTable.ofSource source
    let needed := table.neededAfter earlier
    let spelling := (table.qualify name needed).1
    table.ImportsFreely needed.types ∧
      (spelling = name ∨ spelling = simpleName name) ∧
      (spelling ≠ name →
        table.IsInScope name ∨ name ∈ (table.neededAfter (earlier ++ [name])).types) ∧
      ∀ between : List String,
        let later := table.neededAfter (earlier ++ name :: between)
        table.qualify name later = (spelling, later) := by
  intro table needed spelling
  have hspelled : table.SpelledAs (table.qualify name needed).2 name spelling :=
    spelledAs_qualify table name needed
  refine ⟨?free, hspelled.eq_or_eq, fun hne => ?seen, fun between => ?again⟩
  case free =>
    exact (adds_neededAfter table earlier).importsFreely (nodup_spellTypes earlier List.nodup_nil)
  case seen =>
    have hnext := hspelled.mono (types_subset_neededAfter table earlier [] name)
    exact hnext.isInScope_or_mem hne
  case again =>
    have hlater := hspelled.mono (types_subset_neededAfter table earlier between name)
    exact hlater.qualify_eq (adds_neededAfter table _)

end Sequence

end ImportTable

end CallMigration
