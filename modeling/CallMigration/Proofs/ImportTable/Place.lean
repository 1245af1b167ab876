import CallMigration.ImportTable
import CallMigration.Proofs.Edit.Validity

/-!
# The place for imports

The imports that a file lacks are added by one edit, which holds a line for each of them
(`ImportTable.insertion?_eq_some`), and there is no such edit exactly if none are missing
(`ImportTable.insertion?_eq_none_iff`). The table of the file notes where its lines end. Lines laid
end to end are the source, so that every such place is a boundary of it, and the edit is always
valid (`ImportTable.validate_of_insertion?`).
-/

namespace CallMigration

/-- Inserting at a boundary is always possible. -/
theorem Edit.validate_insertion {source : String} {offset : Nat} {text : String}
    (h : Text.isBoundary source.toList offset = true) :
    (insertion offset text).validate source = .ok () :=
  validate_eq_ok_iff.mpr (TextRange.exists_cut?_iff.mpr ⟨Nat.le_refl offset, h, h⟩)

/-- An insertion puts its text between two parts of the source. -/
theorem Edit.apply_insertion {source text : String} {a b : List Char} (h : source.toList = a ++ b) :
    (insertion (Text.byteLength a) text).apply source =
      .ok (String.ofList (a ++ text.toList ++ b)) := by
  have hcut : (insertion (Text.byteLength a) text).range.cut? source.toList = some (a, [], b) :=
    TextRange.cut?_eq_some_iff.mpr ⟨by simp [h], rfl, by simp [insertion]⟩
  exact apply_of_cut? hcut

namespace ImportTable

section Lines

variable {table : ImportTable} {source name : String} {requests : NewImports}

/-- The byte offset at which imports are added. -/
def insertionPoint (table : ImportTable) : Nat := (table.importsEnd.or table.packageEnd).getD 0

/-- The line that imports a type. -/
def typeLine (name : String) : List Char := "import ".toList ++ name.toList ++ ";\n".toList

/-- The line that imports a static member. -/
def staticLine (member : String) : List Char :=
  "import static ".toList ++ member.toList ++ ";\n".toList

theorem infix_flatMap {names : List String} (h : name ∈ names) (line : String → List Char) :
    line name <:+: names.flatMap line := by
  obtain ⟨before, after, rfl⟩ := List.append_of_mem h
  rw [List.flatMap_append, List.flatMap_cons, ← List.append_assoc]
  exact List.infix_append _ _ _

/-- A type that is asked for and that the file lacks gets its line. -/
theorem typeLine_infix_missingLines (hname : name ∈ requests.types) (himports : name ∉ table.imports)
    (hvisible : table.isVisible name = false) : typeLine name <:+: table.missingLines requests := by
  have hmissing : name ∈ requests.types.filter fun name =>
      !table.imports.contains name && !table.isVisible name :=
    List.mem_filter.mpr ⟨hname, by simp [himports, hvisible]⟩
  exact (infix_flatMap hmissing typeLine).trans (List.prefix_append _ _).isInfix

theorem staticLine_infix_missingLines (hname : name ∈ requests.statics)
    (himports : name ∉ table.staticImports) :
    staticLine name <:+: table.missingLines requests := by
  have hmissing : name ∈ requests.statics.filter fun member =>
      !table.staticImports.contains member :=
    List.mem_filter.mpr ⟨hname, by simp [himports]⟩
  exact (infix_flatMap hmissing staticLine).trans (List.suffix_append _ _).isInfix

theorem insertion?_eq_none (h : table.missingLines requests = []) :
    table.insertion? source requests = none := by
  simp [insertion?, h]

/-- A place is in the middle of a line if what stands before it does not end with a line feed. -/
theorem needsNewline_eq {a b : List Char} (h : source.toList = a ++ b) :
    needsNewline source (Text.byteLength a) = a.getLast?.any (· ≠ '\n') := by
  rw [needsNewline, Text.splitAtByte?_eq_some_iff.mpr ⟨h, rfl⟩]

/-- Missing lines are inserted at the place for imports, between empty lines and behind a line
feed. -/
theorem insertion?_eq_some_ofList (source : String) (h : table.missingLines requests ≠ []) :
    ∃ lead trail, table.insertion? source requests =
        some (.insertion table.insertionPoint (String.ofList
          (List.replicate lead '\n' ++ table.missingLines requests ++
            List.replicate trail '\n'))) ∧
      (needsNewline source table.insertionPoint = true → 0 < lead) := by
  unfold insertion? insertionPoint
  simp only [List.isEmpty_iff, h, if_false]
  cases table.importsEnd with
  | some offset =>
      by_cases hneeds : needsNewline source offset = true
      · exact ⟨1, 0, by simp [hneeds], fun _ => Nat.one_pos⟩
      · exact ⟨0, 0, by simp [hneeds], fun hneeds' => absurd hneeds' hneeds⟩
  | none =>
      cases table.packageEnd with
      | some offset =>
          by_cases hneeds : needsNewline source offset = true
          · exact ⟨2, 0, by simp [hneeds, List.replicate], fun _ => Nat.two_pos⟩
          · exact ⟨1, 0, by simp [hneeds], fun _ => Nat.one_pos⟩
      | none =>
          have hstart : needsNewline source 0 = false := needsNewline_eq (a := []) rfl
          exact ⟨0, 1, by simp, fun hneeds => absurd hneeds (by simp [hstart])⟩

theorem insertion?_eq_some (source : String) (h : table.missingLines requests ≠ []) :
    ∃ text, table.insertion? source requests = some (.insertion table.insertionPoint text) ∧
      table.missingLines requests <:+: text.toList := by
  obtain ⟨lead, trail, hinsertion, -⟩ := insertion?_eq_some_ofList source h
  refine ⟨_, hinsertion, ?_⟩
  rw [String.toList_ofList]
  exact List.infix_append _ _ _

theorem typeLine_ne_nil (name : String) : typeLine name ≠ [] :=
  List.append_ne_nil_of_right_ne_nil _ (by decide)

theorem staticLine_ne_nil (member : String) : staticLine member ≠ [] :=
  List.append_ne_nil_of_right_ne_nil _ (by decide)

/-- No line is missing exactly if the file provides for all that is asked for. -/
theorem missingLines_eq_nil_iff :
    table.missingLines requests = [] ↔
      (∀ name ∈ requests.types, name ∈ table.imports ∨ table.isVisible name = true) ∧
        ∀ member ∈ requests.statics, member ∈ table.staticImports := by
  constructor
  · intro hnil
    constructor
    · intro name hname
      refine Classical.byContradiction fun hlacks => ?_
      obtain ⟨himports, hvisible⟩ := not_or.mp hlacks
      have hline := typeLine_infix_missingLines hname himports (Bool.eq_false_iff.mpr hvisible)
      rw [hnil, List.infix_nil] at hline
      exact typeLine_ne_nil name hline
    · intro member hmember
      refine Classical.byContradiction fun hlacks => ?_
      have hline := staticLine_infix_missingLines hmember hlacks
      rw [hnil, List.infix_nil] at hline
      exact staticLine_ne_nil member hline
  · rintro ⟨htypes, hstatics⟩
    have htypes' : requests.types.filter
        (fun name => !table.imports.contains name && !table.isVisible name) = [] := by
      rw [List.filter_eq_nil_iff]
      intro name hname
      rcases htypes name hname with h | h <;> simp [h]
    have hstatics' : requests.statics.filter
        (fun member => !table.staticImports.contains member) = [] := by
      rw [List.filter_eq_nil_iff]
      intro member hmember
      simp [hstatics member hmember]
    rw [missingLines, htypes', hstatics']
    rfl

theorem insertion?_eq_none_iff {source : String} :
    table.insertion? source requests = none ↔ table.missingLines requests = [] := by
  constructor
  · intro hnone
    refine Classical.byContradiction fun hlines => ?_
    obtain ⟨text, hsome, -⟩ := insertion?_eq_some source hlines
    rw [hnone] at hsome
    cases hsome
  · exact insertion?_eq_none

end Lines

section Place

variable {table : ImportTable} {text : List Char}

/-- Whether the places that a table has noted are boundaries of a text. -/
structure PlacedIn (table : ImportTable) (text : List Char) : Prop where
  packageEnd : ∀ n ∈ table.packageEnd, Text.isBoundary text n = true
  importsEnd : ∀ n ∈ table.importsEnd, Text.isBoundary text n = true

theorem placedIn_empty (text : List Char) : empty.PlacedIn text := ⟨nofun, nofun⟩

/-- A line notes no other place than its own end. -/
theorem PlacedIn.readLine (h : table.PlacedIn text) (line : List Char) {lineEnd : Nat}
    (hend : Text.isBoundary text lineEnd = true) : (table.readLine line lineEnd).PlacedIn text := by
  have hnew : ∀ n ∈ some lineEnd, Text.isBoundary text n = true := by
    rintro n ⟨⟩
    exact hend
  unfold ImportTable.readLine
  simp only
  split
  · exact ⟨hnew, h.importsEnd⟩
  · split
    · exact h
    · split
      · exact ⟨h.packageEnd, hnew⟩
      · exact ⟨h.packageEnd, hnew⟩

/-- Lines of a text note boundaries of the text. -/
theorem PlacedIn.readLines {before : List Char} {lines : List (List Char)}
    (h : table.PlacedIn text) (htext : text = before ++ lines.flatten) :
    (table.readLines (Text.byteLength before) lines).PlacedIn text := by
  induction lines generalizing table before with
  | nil => exact h
  | cons line rest ih =>
      have hmoved : text = (before ++ line) ++ rest.flatten := by
        rw [htext, List.flatten_cons, List.append_assoc]
      have hend : Text.isBoundary text (Text.byteLength (before ++ line)) = true :=
        Text.isBoundary_iff.mpr ⟨_, _, hmoved, rfl⟩
      rw [ImportTable.readLines, ← Text.byteLength_append]
      exact ih (h.readLine line hend) hmoved

theorem placedIn_ofSource (source : String) : (ofSource source).PlacedIn source.toList := by
  have hlines : source.toList = [] ++ (Text.linesWithEndings source.toList).flatten := by
    rw [Text.flatten_linesWithEndings, List.nil_append]
  have hread := (placedIn_empty source.toList).readLines hlines
  exact ⟨hread.packageEnd, hread.importsEnd⟩

/-- Imports are added at a boundary of the source. -/
theorem isBoundary_insertionPoint (source : String) :
    Text.isBoundary source.toList (ofSource source).insertionPoint = true := by
  have hplaced := placedIn_ofSource source
  unfold insertionPoint
  cases himports : (ofSource source).importsEnd with
  | some n => exact hplaced.importsEnd n himports
  | none =>
      cases hpackage : (ofSource source).packageEnd with
      | some n => exact hplaced.packageEnd n hpackage
      | none => exact Text.isBoundary_iff.mpr ⟨[], source.toList, rfl, rfl⟩

/-- The edit that adds imports to a source is valid for it. -/
theorem validate_of_insertion? {source : String} {requests : NewImports} {e : Edit}
    (h : (ofSource source).insertion? source requests = some e) : e.validate source = .ok () := by
  by_cases hlines : (ofSource source).missingLines requests = []
  · rw [insertion?_eq_none hlines] at h
    cases h
  · obtain ⟨text, hinsertion, -⟩ := insertion?_eq_some source hlines
    obtain rfl := Option.some.inj (h.symm.trans hinsertion)
    exact Edit.validate_insertion (isBoundary_insertionPoint source)

end Place

end ImportTable

end CallMigration
