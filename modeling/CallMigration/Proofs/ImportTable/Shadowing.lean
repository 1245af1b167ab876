import CallMigration.Proofs.ImportTable.Qualify

/-!
# When a simple name is taken

The simple name of a type can stand for another type that the file imports by name. Spelling a type
looks for such imports last, after it has found that the type is in `java.lang`, in the file's own
package, or covered by an import. So the simple name is given to a type whose simple name is taken
exactly if the type can be seen in one of these ways, and the file declares no other type of that
name (`ImportTable.spelling_isShadowed_iff`).
-/

namespace CallMigration

namespace QualifiedName

/-- A simple name holds no dot. -/
theorem not_mem_simpleName (name : String) : '.' ∉ (simpleName name).toList := by
  rw [simpleName, String.toList_ofList, List.mem_reverse]
  intro hdot
  have hkept := (List.all_takeWhile (p := (· ≠ '.')) (l := name.toList.reverse))
  have := List.all_eq_true.mp hkept '.' hdot
  simp at this

/-- A name with a dot is longer than its simple name. -/
theorem ne_simpleName {name : String} (hdotted : '.' ∈ name.toList) : name ≠ simpleName name := by
  intro heq
  rw [heq] at hdotted
  exact not_mem_simpleName name hdotted

end QualifiedName

namespace ImportTable

open QualifiedName (simpleName packagePart)

variable {table : ImportTable} {needed : NewImports} {name : String}

/-- The ways in which a type can be used by its simple name as things are. -/
inductive IsInScope (table : ImportTable) (name : String) : Prop
  | base (h : packagePart name = "java.lang") : IsInScope table name
  | ownPackage (h : table.package = some (packagePart name)) : IsInScope table name
  | imported (h : name ∈ table.imports) : IsInScope table name
  | wildcard (h : packagePart name ++ ".*" ∈ table.imports) : IsInScope table name

theorem isVisible_iff : table.isVisible name = true ↔ table.IsInScope name := by
  unfold isVisible
  simp only [Bool.or_eq_true, beq_iff_eq, List.any_eq_true]
  constructor
  · rintro ((hbase | hown) | ⟨i, hi, rfl | rfl⟩)
    · exact .base hbase
    · exact .ownPackage hown
    · exact .imported hi
    · exact .wildcard hi
  · rintro (hbase | hown | himported | hwildcard)
    · exact Or.inl (Or.inl hbase)
    · exact Or.inl (Or.inr hown)
    · exact Or.inr ⟨_, himported, Or.inl rfl⟩
    · exact Or.inr ⟨_, hwildcard, Or.inr rfl⟩

instance : DecidablePred table.IsInScope := fun _ => decidable_of_iff _ isVisible_iff

/-- Whether the file imports, by name, another type with the simple name of a type. -/
def IsShadowed (table : ImportTable) (name : String) : Prop :=
  ∃ i ∈ table.imports, simpleName i ≠ "*" ∧ i ≠ name ∧ simpleName i = simpleName name

instance : DecidablePred table.IsShadowed := fun name =>
  inferInstanceAs (Decidable (∃ i ∈ table.imports,
    simpleName i ≠ "*" ∧ i ≠ name ∧ simpleName i = simpleName name))

/-- A type whose simple name is taken clashes with the imports of the file. -/
theorem IsShadowed.clashes (h : table.IsShadowed name) : clashes table.imports name = true := by
  obtain ⟨i, hi, -, hne, hsimple⟩ := h
  exact List.any_eq_true.mpr ⟨i, hi, by simp [hne, hsimple]⟩

/-- **How a type is spelled.** A type with a dotted name gets its simple name exactly if the file
declares no other type of that name, and the type is in scope or another one of that name is neither
imported by the file nor asked for. -/
theorem spelling_eq_simpleName_iff (hdotted : '.' ∈ name.toList) :
    (table.qualify name needed).1 = simpleName name ↔
      table.declaresOther name = false ∧
        (table.IsInScope name ∨
          clashes table.imports name = false ∧ clashes needed.types name = false) := by
  have hne := QualifiedName.ne_simpleName hdotted
  rw [← isVisible_iff]
  unfold qualify
  simp only
  split
  · next hdeclares => simp [hdeclares, hne]
  · next hdeclares =>
      split
      · next hvisible => simp [hdeclares, hvisible]
      · next hvisible =>
          split
          · next hclashes =>
              rw [Bool.or_eq_true] at hclashes
              rcases hclashes with h | h <;> simp [h, hvisible, hne]
          · next hfree =>
              rw [Bool.or_eq_true, not_or] at hfree
              simp [hdeclares, hfree.1, hfree.2]

/-- A type that gets its simple name without being in scope is asked for. -/
theorem mem_types_of_spelling (hdotted : '.' ∈ name.toList) (hscope : ¬ table.IsInScope name)
    (hsimple : (table.qualify name needed).1 = simpleName name) :
    clashes table.imports name = false ∧ name ∈ (table.qualify name needed).2.types := by
  obtain ⟨hdeclares, hfree⟩ := (spelling_eq_simpleName_iff hdotted).mp hsimple
  obtain ⟨himports, hneeded⟩ := hfree.resolve_left hscope
  have hcan : table.canImport name = true := by
    simp [canImport, hdeclares, himports, mt isVisible_iff.mp hscope]
  rw [qualify_needed, hcan, hneeded]
  exact ⟨himports, NewImports.mem_types_addType.mpr (Or.inr rfl)⟩

/-- **When a simple name is given away twice.** A type with a dotted name gets its simple name
though the file imports another type of that name exactly if the file declares no other type of that
name and the type is in scope. A type that is not in scope gets its simple name only together with
its own import, and then no import of the file has that name. -/
theorem spelling_isShadowed_iff {source name : String} (hdotted : '.' ∈ name.toList)
    (needed : NewImports) :
    let table := ImportTable.ofSource source
    ((table.qualify name needed).1 = simpleName name ∧ table.IsShadowed name ↔
        table.declaresOther name = false ∧ table.IsInScope name ∧ table.IsShadowed name) ∧
      (¬ table.IsInScope name → (table.qualify name needed).1 = simpleName name →
        ¬ table.IsShadowed name ∧ name ∈ (table.qualify name needed).2.types) := by
  intro table
  have hunscoped : ¬ table.IsInScope name → (table.qualify name needed).1 = simpleName name →
      ¬ table.IsShadowed name ∧ name ∈ (table.qualify name needed).2.types := by
    intro hscope hsimple
    obtain ⟨himports, hmem⟩ := mem_types_of_spelling hdotted hscope hsimple
    refine ⟨fun hshadowed => ?_, hmem⟩
    rw [hshadowed.clashes] at himports
    cases himports
  refine ⟨⟨?_, ?_⟩, hunscoped⟩
  · rintro ⟨hsimple, hshadowed⟩
    have hscope : table.IsInScope name :=
      Classical.byContradiction fun hscope => (hunscoped hscope hsimple).1 hshadowed
    exact ⟨((spelling_eq_simpleName_iff hdotted).mp hsimple).1, hscope, hshadowed⟩
  · rintro ⟨hdeclares, hscope, hshadowed⟩
    exact ⟨(spelling_eq_simpleName_iff hdotted).mpr ⟨hdeclares, Or.inl hscope⟩, hshadowed⟩

/-- A file that imports three types by name whose simple names are also those of types in scope. -/
def crowded : String :=
  "package p;\n\nimport q.List;\nimport q.String;\nimport q.Local;\nimport java.util.*;\n\n" ++
    "class A \x7b\x7d\n"

/-- Types of a package imported as a whole, of the base package and of the file's own all get simple
names that are taken. -/
theorem shadowed_crowded :
    ["java.util.List", "java.lang.String", "p.Local"].map
        (fun name => ((ofSource crowded).qualify name .none).1) = ["List", "String", "Local"] ∧
      (ofSource crowded).IsShadowed "java.util.List" ∧
      (ofSource crowded).IsShadowed "java.lang.String" ∧
      (ofSource crowded).IsShadowed "p.Local" := by
  decide +kernel

/-- For one of them that is so because it is in scope. -/
theorem spelling_isShadowed_crowded :
    '.' ∈ "java.util.List".toList ∧ (ofSource crowded).IsInScope "java.util.List" := by
  have hdotted : '.' ∈ "java.util.List".toList := by decide
  have hsimple : ((ofSource crowded).qualify "java.util.List" .none).1 =
      simpleName "java.util.List" := by
    decide +kernel
  have hshadowed : (ofSource crowded).IsShadowed "java.util.List" := by decide +kernel
  exact ⟨hdotted, ((spelling_isShadowed_iff hdotted .none).1.mp ⟨hsimple, hshadowed⟩).2.1⟩

end ImportTable

end CallMigration
