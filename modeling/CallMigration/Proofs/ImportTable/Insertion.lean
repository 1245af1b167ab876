import CallMigration.Proofs.ImportTable.Place
import CallMigration.Proofs.ImportTable.Reading
import CallMigration.Proofs.ImportTable.Shadowing

/-!
# Imports that are inserted are read back

The lines that are inserted for missing imports say what was asked for
(`ImportTable.ofText_missingLines`). They stand between two lines of the source, each of which says
what it said before, and behind all imports of the source. So the table of the new source is the old
one with what was missing at its end, and nothing is missing in it any more
(`ImportTable.ofSource_withImports`).
-/

namespace CallMigration

/-- Whether a name holds neither a blank nor a semicolon. -/
def IsPlainName (name : String) : Prop := ∀ c ∈ name.toList, Text.isBlank c = false ∧ c ≠ ';'

/-- Whether all names that are asked for are plain. -/
def NewImports.ArePlain (requests : NewImports) : Prop :=
  ∀ name ∈ requests.types ++ requests.statics, IsPlainName name

namespace ImportTable

open Entry (ofLine? ofImport ofText ofText_append)

section Lines

variable {name : String}

/-- The body of a statement is what stands before the semicolon. -/
theorem statementBody_append (h : IsPlainName name) :
    statementBody (name.toList ++ [';']) = name := by
  have hbefore : (name.toList ++ [';']).takeWhile (· ≠ ';') = name.toList := by
    rw [List.takeWhile_append_of_pos (by simpa using fun c hc => (h c hc).2)]
    simp
  have hfirst : ∀ c ∈ name.toList.head?, Text.isBlank c = false :=
    fun c hc => (h c (List.mem_of_mem_head? hc)).1
  have hlast : ∀ c ∈ name.toList.getLast?, Text.isBlank c = false :=
    fun c hc => (h c (List.mem_of_mem_getLast? hc)).1
  rw [statementBody, hbefore, Text.trim_eq_self hfirst hlast, String.ofList_toList]

/-- A plain name does not begin with a word and a blank. -/
theorem stripStart?_static_eq_none (h : IsPlainName name) :
    Text.stripStart? "static ".toList (name.toList ++ [';']) = none := by
  rw [Option.eq_none_iff_forall_ne_some]
  intro rest hrest
  have hblank : ' ' ∈ name.toList ++ [';'] := by
    rw [Text.stripStart?_eq_some_iff.mp hrest]
    exact List.mem_append_left rest (by decide)
  rcases List.mem_append.mp hblank with hblank | hblank
  · exact absurd (h ' ' hblank).1 (by decide)
  · exact absurd hblank (by decide)

/-- A plain name with a semicolon has no blank in front. -/
theorem trimStart_name (h : IsPlainName name) :
    Text.trimStart (name.toList ++ [';']) = name.toList ++ [';'] := by
  refine Text.trimStart_eq_self fun c hc => ?_
  rcases List.mem_append.mp (List.mem_of_mem_head? hc) with hc | hc
  · exact (h c hc).1
  · rw [List.mem_singleton.mp hc]
    decide

/-- A line with an import statement says what stands behind the first word. -/
theorem ofLine?_import (body : List Char) :
    ofLine? ("import ".toList ++ body ++ ";\n".toList) =
      some (ofImport (Text.trimStart (body ++ [';']))) := by
  have hline : "import ".toList ++ body ++ ";\n".toList =
      ("import ".toList ++ (body ++ [';'])) ++ ['\n'] := by
    simp
  have htrim : Text.trim ("import ".toList ++ (body ++ [';'])) =
      "import ".toList ++ (body ++ [';']) := by
    have hword : "import ".toList = 'i' :: "mport ".toList := by decide
    refine Text.trim_eq_self ?_ ?_
    · rw [hword, List.cons_append, List.head?_cons]
      rintro c ⟨⟩
      decide
    · rw [← List.append_assoc, List.getLast?_concat]
      rintro c ⟨⟩
      decide
  have hpackage : Text.stripStart? "package ".toList ("import ".toList ++ (body ++ [';'])) = none := by
    simp [Text.stripStart?]
  have himport : Text.stripStart? "import ".toList ("import ".toList ++ (body ++ [';'])) =
      some (body ++ [';']) := Text.stripStart?_eq_some_iff.mpr rfl
  rw [hline, Entry.ofLine?_append_newline, ofLine?]
  simp only [htrim, hpackage, himport, Option.map_some]

/-- The line for a type says that the type is imported. -/
theorem ofLine?_typeLine (h : IsPlainName name) : ofLine? (typeLine name) = some (.type name) := by
  have hline : ofLine? (typeLine name) =
      some (ofImport (Text.trimStart (name.toList ++ [';']))) := ofLine?_import name.toList
  rw [hline, trimStart_name h, Entry.ofImport_of_none (stripStart?_static_eq_none h),
    statementBody_append h]

/-- The line for a static member says that the member is imported. -/
theorem ofLine?_staticLine (h : IsPlainName name) :
    ofLine? (staticLine name) = some (.static name) := by
  have hline : ofLine? (staticLine name) =
      some (ofImport (Text.trimStart ("static ".toList ++ name.toList ++ [';']))) :=
    ofLine?_import ("static ".toList ++ name.toList)
  have htrim : Text.trimStart ("static ".toList ++ name.toList ++ [';']) =
      "static ".toList ++ (name.toList ++ [';']) := by
    have hword : "static ".toList = 's' :: "tatic ".toList := by decide
    rw [List.append_assoc]
    refine Text.trimStart_eq_self ?_
    rw [hword, List.cons_append, List.head?_cons]
    rintro c ⟨⟩
    decide
  have hstatic : Text.stripStart? "static ".toList ("static ".toList ++ (name.toList ++ [';'])) =
      some (name.toList ++ [';']) := Text.stripStart?_eq_some_iff.mpr rfl
  rw [hline, htrim, Entry.ofImport_of_some hstatic, statementBody_append h]

/-- A statement of a plain name is a line of its own. -/
theorem ofText_statement (word : List Char) (hword : '\n' ∉ word) (h : IsPlainName name) :
    Text.EndsLine (word ++ name.toList ++ ";\n".toList) ∧
      ofText (word ++ name.toList ++ ";\n".toList) =
        (ofLine? (word ++ name.toList ++ ";\n".toList)).toList := by
  have hline : word ++ name.toList ++ ";\n".toList = (word ++ name.toList ++ [';']) ++ ['\n'] := by
    simp
  have hname : '\n' ∉ name.toList := fun hmem => absurd (h '\n' hmem).1 (by decide)
  have hnone : '\n' ∉ word ++ name.toList ++ [';'] := by simp [hword, hname]
  rw [hline]
  exact ⟨Text.endsLine_line_append.mpr Text.endsLine_nil, Entry.ofText_line hnone⟩

theorem ofText_typeLine (h : IsPlainName name) :
    Text.EndsLine (typeLine name) ∧ ofText (typeLine name) = [.type name] := by
  obtain ⟨hends, hread⟩ := ofText_statement "import ".toList (by decide) h
  exact ⟨hends, hread.trans (congrArg Option.toList (ofLine?_typeLine h))⟩

theorem ofText_staticLine (h : IsPlainName name) :
    Text.EndsLine (staticLine name) ∧ ofText (staticLine name) = [.static name] := by
  obtain ⟨hends, hread⟩ := ofText_statement "import static ".toList (by decide) h
  exact ⟨hends, hread.trans (congrArg Option.toList (ofLine?_staticLine h))⟩

end Lines

section Missing

variable {table : ImportTable} {requests : NewImports}

/-- The types that are asked for and that the file has no name for. -/
def missingTypes (table : ImportTable) (requests : NewImports) : List String :=
  requests.types.filter fun name => ¬ table.IsInScope name

/-- The static members that are asked for and that the file does not import. -/
def missingStatics (table : ImportTable) (requests : NewImports) : List String :=
  requests.statics.filter fun member => member ∉ table.staticImports

/-- What the lines for missing imports are to say. -/
def missingEntries (table : ImportTable) (requests : NewImports) : List Entry :=
  (table.missingTypes requests).map .type ++ (table.missingStatics requests).map .static

theorem package?_missingEntries :
    (table.missingEntries requests).filterMap Entry.package? = [] := by
  simp [missingEntries, List.filterMap_map, Function.comp_def, Entry.package?]

theorem type?_missingEntries :
    (table.missingEntries requests).filterMap Entry.type? = table.missingTypes requests := by
  simp [missingEntries, List.filterMap_map, Function.comp_def, Entry.type?]

theorem static?_missingEntries :
    (table.missingEntries requests).filterMap Entry.static? = table.missingStatics requests := by
  simp [missingEntries, List.filterMap_map, Function.comp_def, Entry.static?]

theorem missingLines_eq (table : ImportTable) (requests : NewImports) :
    table.missingLines requests =
      (table.missingTypes requests).flatMap typeLine ++
        (table.missingStatics requests).flatMap staticLine := by
  have htypes : ∀ name ∈ requests.types,
      (!table.imports.contains name && !table.isVisible name) =
        decide (¬ table.IsInScope name) := by
    intro name _
    rw [Bool.eq_iff_iff, decide_eq_true_iff, ← isVisible_iff]
    have himported : name ∈ table.imports → table.isVisible name = true :=
      fun h => isVisible_iff.mpr (.imported h)
    simpa using fun hvisible hmem => by simp [himported hmem] at hvisible
  have hstatics : ∀ member ∈ requests.statics,
      (!table.staticImports.contains member) = decide (member ∉ table.staticImports) := by
    intro member _
    simp
  rw [missingLines, List.filter_congr htypes, List.filter_congr hstatics]
  rfl

/-- **The lines that are inserted say what was missing.** -/
theorem ofText_missingLines (h : requests.ArePlain) (table : ImportTable) :
    Text.EndsLine (table.missingLines requests) ∧
      ofText (table.missingLines requests) = table.missingEntries requests := by
  have htypes : ∀ name ∈ table.missingTypes requests, IsPlainName name :=
    fun name hname => h name (List.mem_append_left _ (List.mem_filter.mp hname).1)
  have hstatics : ∀ member ∈ table.missingStatics requests, IsPlainName member :=
    fun member hmember => h member (List.mem_append_right _ (List.mem_filter.mp hmember).1)
  obtain ⟨hendsTypes, hreadTypes⟩ := Entry.ofText_flatMap
    (fun name hname => (ofText_typeLine (htypes name hname)).1)
    (fun name hname => (ofText_typeLine (htypes name hname)).2)
  obtain ⟨hendsStatics, hreadStatics⟩ := Entry.ofText_flatMap
    (fun member hmember => (ofText_staticLine (hstatics member hmember)).1)
    (fun member hmember => (ofText_staticLine (hstatics member hmember)).2)
  rw [missingLines_eq]
  refine ⟨Text.endsLine_append hendsTypes hendsStatics, ?_⟩
  rw [ofText_append hendsTypes, hreadTypes, hreadStatics, missingEntries]

theorem missing_eq_nil (h : table.missingLines requests = []) :
    table.missingTypes requests = [] ∧ table.missingStatics requests = [] := by
  obtain ⟨htypes, hstatics⟩ := missingLines_eq_nil_iff.mp h
  constructor
  · refine List.filter_eq_nil_iff.mpr fun name hname => ?_
    have hscope : table.IsInScope name := (htypes name hname).elim .imported isVisible_iff.mp
    simpa using hscope
  · refine List.filter_eq_nil_iff.mpr fun member hmember => ?_
    simpa using hstatics member hmember

/-- More imports leave no type out of scope. -/
theorem IsInScope.mono {table' : ImportTable} {name : String} (h : table.IsInScope name)
    (hpackage : table'.package = table.package) (himports : table.imports ⊆ table'.imports) :
    table'.IsInScope name := by
  cases h with
  | base h => exact .base h
  | ownPackage h => exact .ownPackage (hpackage.trans h)
  | imported h => exact .imported (himports h)
  | wildcard h => exact .wildcard (himports h)

/-- Nothing is missing any more where a table lists all that was. -/
theorem insertion?_eq_none_of_extended {table' : ImportTable} (source : String)
    (hpackage : table'.package = table.package)
    (himports : table'.imports = table.imports ++ table.missingTypes requests)
    (hstatics : table'.staticImports = table.staticImports ++ table.missingStatics requests) :
    table'.insertion? source requests = none := by
  refine insertion?_eq_none (missingLines_eq_nil_iff.mpr ⟨fun name hname => ?_,
    fun member hmember => ?_⟩)
  · by_cases hscope : table.IsInScope name
    · have hmono : table'.IsInScope name :=
        hscope.mono hpackage (himports ▸ List.subset_append_left _ _)
      exact Or.inr (isVisible_iff.mpr hmono)
    · have hmissing : name ∈ table.missingTypes requests :=
        List.mem_filter.mpr ⟨hname, decide_eq_true hscope⟩
      exact Or.inl (himports ▸ List.mem_append_right _ hmissing)
  · rw [hstatics, List.mem_append]
    by_cases hmem : member ∈ table.staticImports
    · exact Or.inl hmem
    · exact Or.inr (List.mem_filter.mpr ⟨hmember, decide_eq_true hmem⟩)

end Missing

section Rereading

variable {source : String} {requests : NewImports}

/-- A source with the imports that it lacks. -/
def withImports (source : String) (requests : NewImports) : Except EditError String :=
  match (ofSource source).insertion? source requests with
  | none => .ok source
  | some e => e.apply source

/-- **Where imports go.** Missing lines come behind a front of the source that ends a line, if need
be with a line feed of their own, and no import of the source stands behind them. -/
theorem withImports_eq_ok (hlines : (ofSource source).missingLines requests ≠ []) :
    ∃ front back lead trail,
      withImports source requests = .ok (String.ofList (front ++ List.replicate lead '\n' ++
        (ofSource source).missingLines requests ++ List.replicate trail '\n' ++ back)) ∧
      Text.EndsLine (front ++ List.replicate lead '\n') ∧
      ofText source.toList = ofText front ++ ofText back ∧ ∀ e ∈ ofText back, ¬ e.IsImport := by
  obtain ⟨a, b, hcut, hplace, hback⟩ := (notes_ofSource source).insertionPoint_eq
  obtain ⟨hfront, hrest, -⟩ := Text.linesWithEndings_of_append hcut
  have hsource : source.toList = a.flatten ++ b.flatten := by
    rw [← Text.flatten_linesWithEndings source.toList, hcut, List.flatten_append]
  obtain ⟨lead, trail, hinsertion, hlead⟩ := insertion?_eq_some_ofList source hlines
  rw [insertionPoint, ← hplace] at hinsertion hlead
  rw [needsNewline_eq hsource] at hlead
  refine ⟨a.flatten, b.flatten, lead, trail, ?_, ?_, ?_, ?_⟩
  · rw [withImports, hinsertion]
    refine (Edit.apply_insertion hsource).trans ?_
    simp only [String.toList_ofList, List.append_assoc]
  · -- Nothing is put before the lines only where the front ends a line by itself.
    cases lead with
    | zero =>
        rw [List.replicate_zero, List.append_nil]
        intro c hc
        have hends : a.flatten.getLast?.any (· ≠ '\n') = false :=
          Bool.eq_false_iff.mpr fun hneeds => absurd (hlead hneeds) (Nat.lt_irrefl 0)
        rw [Option.mem_def.mp hc] at hends
        simpa using hends
    | succ count =>
        rw [List.replicate_succ', ← List.append_assoc]
        exact Text.endsLine_line_append.mpr Text.endsLine_nil
  · rw [ofText, ofText, ofText, hfront, hrest, hcut, List.filterMap_append]
  · rw [ofText, hrest]
    exact hback

/-- A source with the imports that it lacked says what it said before and behind them, and them in
between. -/
theorem ofText_withImports (hplain : requests.ArePlain)
    (hlines : (ofSource source).missingLines requests ≠ []) :
    ∃ result front back, withImports source requests = .ok result ∧
      ofText source.toList = front ++ back ∧
      ofText result.toList = front ++ (ofSource source).missingEntries requests ++ back ∧
      ∀ e ∈ back, ¬ e.IsImport := by
  obtain ⟨front, back, lead, trail, hresult, hfront, hsource, hback⟩ := withImports_eq_ok hlines
  obtain ⟨hends, hread⟩ := ofText_missingLines hplain (ofSource source)
  -- Whatever follows the lines is read as it was, since what is inserted ends a line.
  have htrail : Text.EndsLine (front ++ List.replicate lead '\n' ++
      (ofSource source).missingLines requests ++ List.replicate trail '\n') := by
    refine Text.endsLine_append (Text.endsLine_append hfront hends) fun c hc => ?_
    exact List.eq_of_mem_replicate (List.mem_of_mem_getLast? hc)
  refine ⟨_, ofText front, ofText back, hresult, hsource, ?_, hback⟩
  rw [String.toList_ofList, ofText_append htrail, Entry.ofText_append_newlines,
    ofText_append hfront, Entry.ofText_append_newlines, hread]

/-- **Imports that are inserted are read back.** The edit that inserts what a source lacks is valid
for it. The source with it says the same package, and in their order the imports that it had and
then those that were asked for and that it lacked, so that it lacks nothing of what was asked
for. -/
theorem ofSource_withImports (hplain : requests.ArePlain) :
    let table := ofSource source
    (∀ e, table.insertion? source requests = some e → e.validate source = .ok ()) ∧
      ∃ result, withImports source requests = .ok result ∧
        (ofSource result).package = table.package ∧
        (ofSource result).imports =
          table.imports ++ requests.types.filter (fun name => ¬ table.IsInScope name) ∧
        (ofSource result).staticImports =
          table.staticImports ++ requests.statics.filter (fun m => m ∉ table.staticImports) ∧
        (ofSource result).insertion? result requests = none := by
  intro table
  refine ⟨fun e he => validate_of_insertion? he, ?_⟩
  suffices h : ∃ result, withImports source requests = .ok result ∧
      (ofSource result).package = table.package ∧
      (ofSource result).imports = table.imports ++ table.missingTypes requests ∧
      (ofSource result).staticImports = table.staticImports ++ table.missingStatics requests by
    obtain ⟨result, hresult, hpackage, himports, hstatics⟩ := h
    exact ⟨result, hresult, hpackage, himports, hstatics,
      insertion?_eq_none_of_extended result hpackage himports hstatics⟩
  by_cases hlines : table.missingLines requests = []
  · obtain ⟨htypes, hstatics⟩ := missing_eq_nil hlines
    have hnone : table.insertion? source requests = none := insertion?_eq_none hlines
    exact ⟨source, by rw [withImports, hnone], rfl, by simp [htypes, table],
      by simp [hstatics, table]⟩
  · obtain ⟨result, front, back, hresult, hsource, hread, hback⟩ :=
      ofText_withImports hplain hlines
    have htypes : back.filterMap Entry.type? = [] := Entry.filterMap_eq_nil (fun _ => rfl) hback
    have hstatics : back.filterMap Entry.static? = [] :=
      Entry.filterMap_eq_nil (fun _ => rfl) hback
    refine ⟨result, hresult, ?_, ?_, ?_⟩
    · rw [package_ofSource, package_ofSource, hread, hsource]
      simp only [List.filterMap_append, package?_missingEntries, List.append_nil]
    · rw [imports_ofSource, imports_ofSource, hread, hsource]
      simp only [List.filterMap_append, type?_missingEntries, htypes, List.append_nil]
      rfl
    · rw [statics_ofSource, statics_ofSource, hread, hsource]
      simp only [List.filterMap_append, static?_missingEntries, hstatics, List.append_nil]
      rfl

/-- A source whose last line is an import without a line feed, with a package below
another import. -/
def unordered : String := "import static q.S.of;\npackage p;\r\n  import java.util.*;"

/-- What is asked for of it: types imported as a whole and of its own package, a type and a member
that it lacks, and a member that it has. -/
def wanted : NewImports := ⟨["java.util.List", "p.Local", "q.Range"], ["q.S.of", "q.S.to"]⟩

/-- The import that it lacks gets a line feed in front. -/
theorem ofSource_withImports_unordered :
    wanted.ArePlain ∧ (withImports unordered wanted).toOption =
        some (unordered ++ "\nimport q.Range;\nimport static q.S.to;\n") ∧
      ∃ result, withImports unordered wanted = .ok result ∧
        (ofSource result).insertion? result wanted = none := by
  have hplain : wanted.ArePlain := by
    simp [NewImports.ArePlain, IsPlainName, wanted, Text.isBlank]
  obtain ⟨-, result, hresult, -, -, -, hnone⟩ := @ofSource_withImports unordered wanted hplain
  exact ⟨hplain, by decide +kernel, result, hresult, hnone⟩

end Rereading

end ImportTable

end CallMigration
