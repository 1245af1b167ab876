import CallMigration.ImportTable
import CallMigration.Proofs.Text.Lines

/-!
# What the lines of a file say

A line names the package, imports a type, imports a static member, or says nothing about names
(`ImportTable.Entry.ofLine?`). The import table of a file is what its lines say, together with two
places between them (`ImportTable.notes_ofSource`): its package and its imports are the entries of
the lines in their order, and there is no import behind the place for imports.
-/

namespace CallMigration

namespace Text

/-- Blanks behind a text do not show once it is trimmed. -/
theorem trim_append_blank {c : Char} (hc : isBlank c = true) (cs : List Char) :
    trim (cs ++ [c]) = trim cs := by
  unfold trim trimStart
  rw [List.dropWhile_append]
  split
  · next hblank => simp [List.isEmpty_iff.mp hblank, hc]
  · rw [List.reverse_append, List.reverse_singleton, List.singleton_append,
      List.dropWhile_cons_of_pos hc]

theorem trimStart_eq_self {cs : List Char} (h : ∀ c ∈ cs.head?, isBlank c = false) :
    trimStart cs = cs := by
  cases cs with
  | nil => rfl
  | cons c cs => rw [trimStart, List.dropWhile_cons_of_neg (by simp [h c rfl])]

/-- A text with blanks at neither end is trimmed already. -/
theorem trim_eq_self {cs : List Char} (hfirst : ∀ c ∈ cs.head?, isBlank c = false)
    (hlast : ∀ c ∈ cs.getLast?, isBlank c = false) : trim cs = cs := by
  have hreverse : trimStart cs.reverse = cs.reverse :=
    trimStart_eq_self (by rwa [List.head?_reverse])
  rw [trim, trimStart_eq_self hfirst]
  rw [trimStart] at hreverse
  rw [hreverse, List.reverse_reverse]

end Text

namespace ImportTable

/-- What a line of a file says about names. -/
inductive Entry where
  | package (name : String)
  | type (name : String)
  | static (member : String)
deriving DecidableEq

namespace Entry

/-- What an import statement says behind its first word. -/
def ofImport (rest : List Char) : Entry :=
  match Text.stripStart? "static ".toList rest with
  | some member => static (statementBody member)
  | none => type (statementBody rest)

/-- What a line says, if it says anything. -/
def ofLine? (line : List Char) : Option Entry :=
  let trimmed := Text.trim line
  match Text.stripStart? "package ".toList trimmed with
  | some rest => some (package (statementBody rest))
  | none =>
      (Text.stripStart? "import ".toList trimmed).map fun rest => ofImport (Text.trimStart rest)

/-- What the lines of a text say. -/
def ofText (text : List Char) : List Entry := (Text.linesWithEndings text).filterMap ofLine?

def package? : Entry → Option String
  | package name => some name
  | _ => none

def type? : Entry → Option String
  | type name => some name
  | _ => none

def static? : Entry → Option String
  | static member => some member
  | _ => none

/-- Whether the entry is an import of either kind. -/
def IsImport (e : Entry) : Prop := e.package? = none

/-- Entries that are no imports name packages only. -/
theorem filterMap_eq_nil {entries : List Entry} {read? : Entry → Option String}
    (hread : ∀ name, read? (package name) = none) (h : ∀ e ∈ entries, ¬ e.IsImport) :
    entries.filterMap read? = [] := by
  refine List.filterMap_eq_nil_iff.mpr fun e he => ?_
  cases e with
  | package name => exact hread name
  | type name => exact absurd rfl (h _ he)
  | static member => exact absurd rfl (h _ he)

theorem ofImport_of_some {rest member : List Char}
    (h : Text.stripStart? "static ".toList rest = some member) :
    ofImport rest = static (statementBody member) := by
  rw [ofImport, h]

theorem ofImport_of_none {rest : List Char}
    (h : Text.stripStart? "static ".toList rest = none) :
    ofImport rest = type (statementBody rest) := by
  rw [ofImport, h]

/-- The ending of a line says nothing. -/
theorem ofLine?_append_newline (line : List Char) : ofLine? (line ++ ['\n']) = ofLine? line := by
  rw [ofLine?, Text.trim_append_blank (by decide)]
  rfl

theorem ofText_append {a b : List Char} (h : Text.EndsLine a) :
    ofText (a ++ b) = ofText a ++ ofText b := by
  rw [ofText, Text.linesWithEndings_append h, List.filterMap_append]
  rfl

/-- Line feeds behind a text say nothing. -/
theorem ofText_append_newlines (text : List Char) (count : Nat) :
    ofText (text ++ List.replicate count '\n') = ofText text := by
  induction count with
  | zero => rw [List.replicate_zero, List.append_nil]
  | succ count ih =>
      rw [List.replicate_succ', ← List.append_assoc]
      by_cases hends : Text.EndsLine (text ++ List.replicate count '\n')
      · rw [ofText_append hends, ih]
        exact List.append_nil _
      · exact (Text.filterMap_linesWithEndings_newline ofLine?_append_newline hends).trans ih

/-- A text of one line says what the line says. -/
theorem ofText_line {line : List Char} (h : '\n' ∉ line) :
    ofText (line ++ ['\n']) = (ofLine? (line ++ ['\n'])).toList := by
  rw [ofText, Text.linesWithEndings_line_append h, Text.linesWithEndings_nil]
  cases hline : ofLine? (line ++ ['\n']) <;> simp [hline]

/-- A text of lines says what they say one after another. -/
theorem ofText_flatMap {names : List String} {line : String → List Char} {entry : String → Entry}
    (hends : ∀ name ∈ names, Text.EndsLine (line name))
    (hread : ∀ name ∈ names, ofText (line name) = [entry name]) :
    Text.EndsLine (names.flatMap line) ∧ ofText (names.flatMap line) = names.map entry := by
  induction names with
  | nil => exact ⟨Text.endsLine_nil, rfl⟩
  | cons name names ih =>
      rw [List.forall_mem_cons] at hends hread
      obtain ⟨hendsRest, hrest⟩ := ih hends.2 hread.2
      rw [List.flatMap_cons, List.map_cons]
      refine ⟨Text.endsLine_append hends.1 hendsRest, ?_⟩
      rw [ofText_append hends.1, hread.1, hrest, List.singleton_append]

end Entry

variable {table : ImportTable}

/-- A table takes note of what a line says and of its end. -/
theorem readLine_eq (table : ImportTable) (line : List Char) (lineEnd : Nat) :
    table.readLine line lineEnd =
      match Entry.ofLine? line with
      | some (.package name) => { table with package := some name, packageEnd := some lineEnd }
      | some (.type name) =>
          { table with imports := table.imports ++ [name], importsEnd := some lineEnd }
      | some (.static member) =>
          { table with staticImports := table.staticImports ++ [member], importsEnd := some lineEnd }
      | none => table := by
  unfold readLine Entry.ofLine?
  simp only
  cases Text.stripStart? "package ".toList (Text.trim line) with
  | some rest => rfl
  | none =>
      cases Text.stripStart? "import ".toList (Text.trim line) with
      | none => rfl
      | some rest =>
          simp only [Option.map_some, Entry.ofImport]
          cases Text.stripStart? "static ".toList (Text.trimStart rest) with
          | some member => rfl
          | none => rfl

/-- Whether a table is what some lines say, with places that lie between them. -/
structure Notes (table : ImportTable) (lines : List (List Char)) : Prop where
  package : table.package = ((lines.filterMap Entry.ofLine?).filterMap Entry.package?).getLast?
  imports : table.imports = (lines.filterMap Entry.ofLine?).filterMap Entry.type?
  statics : table.staticImports = (lines.filterMap Entry.ofLine?).filterMap Entry.static?
  packageEnd : ∀ n ∈ table.packageEnd, ∃ a b, lines = a ++ b ∧ Text.byteLength a.flatten = n
  /-- The lines up to the last import, if there is one, and those behind it. -/
  importsEnd : ∃ a b, lines = a ++ b ∧
    table.importsEnd = (if a = [] then none else some (Text.byteLength a.flatten)) ∧
    ∀ e ∈ b.filterMap Entry.ofLine?, ¬ e.IsImport

theorem notes_empty : empty.Notes [] :=
  ⟨rfl, rfl, rfl, nofun, [], [], rfl, rfl, nofun⟩

/-- The places between lines remain when there are more. -/
theorem Notes.packageEnd_append {lines : List (List Char)} (h : table.Notes lines)
    (line : List Char) :
    ∀ n ∈ table.packageEnd, ∃ a b, lines ++ [line] = a ++ b ∧ Text.byteLength a.flatten = n := by
  intro n hn
  obtain ⟨a, b, rfl, ha⟩ := h.packageEnd n hn
  exact ⟨a, b ++ [line], List.append_assoc a b [line], ha⟩

/-- A line that is no import stands behind the last one. -/
theorem Notes.importsEnd_append {lines : List (List Char)} (h : table.Notes lines)
    {line : List Char} (hline : ∀ e ∈ Entry.ofLine? line, ¬ e.IsImport) :
    ∃ a b, lines ++ [line] = a ++ b ∧
      table.importsEnd = (if a = [] then none else some (Text.byteLength a.flatten)) ∧
      ∀ e ∈ b.filterMap Entry.ofLine?, ¬ e.IsImport := by
  obtain ⟨a, b, rfl, ha, hb⟩ := h.importsEnd
  refine ⟨a, b ++ [line], List.append_assoc a b [line], ha, ?_⟩
  rw [List.filterMap_append, List.forall_mem_append]
  exact ⟨hb, by simpa [List.mem_filterMap] using hline⟩

/-- Reading a line keeps a table to what the lines say. -/
theorem Notes.readLine {lines : List (List Char)} (h : table.Notes lines) (line : List Char) :
    (table.readLine line (Text.byteLength (lines ++ [line]).flatten)).Notes (lines ++ [line]) := by
  have hentries : (lines ++ [line]).filterMap Entry.ofLine? =
      lines.filterMap Entry.ofLine? ++ (Entry.ofLine? line).toList := by
    rw [List.filterMap_append]
    cases hline : Entry.ofLine? line <;> simp [hline]
  have hhere : ∃ b, lines ++ [line] = (lines ++ [line]) ++ b ∧
      ∀ e ∈ b.filterMap Entry.ofLine?, ¬ e.IsImport := ⟨[], by simp, nofun⟩
  rw [readLine_eq]
  cases hline : Entry.ofLine? line with
  | none =>
      rw [hline, Option.toList_none, List.append_nil] at hentries
      exact ⟨by rw [hentries, h.package], by rw [hentries, h.imports], by rw [hentries, h.statics],
        h.packageEnd_append line, h.importsEnd_append (by simp [hline])⟩
  | some e =>
      rw [hline, Option.toList_some] at hentries
      cases e with
      | package name =>
          refine ⟨?_, ?_, ?_, ?_, h.importsEnd_append (by simp [hline, Entry.IsImport,
            Entry.package?])⟩
          · simp [hentries, Entry.package?]
          · simp [hentries, Entry.type?, h.imports]
          · simp [hentries, Entry.static?, h.statics]
          · rintro n ⟨⟩
            exact ⟨lines ++ [line], [], by simp, rfl⟩
      | type name =>
          obtain ⟨b, hb, hnone⟩ := hhere
          refine ⟨?_, ?_, ?_, h.packageEnd_append line, lines ++ [line], b, hb, by simp, hnone⟩
          · simp [hentries, Entry.package?, h.package]
          · simp [hentries, Entry.type?, h.imports]
          · simp [hentries, Entry.static?, h.statics]
      | static member =>
          obtain ⟨b, hb, hnone⟩ := hhere
          refine ⟨?_, ?_, ?_, h.packageEnd_append line, lines ++ [line], b, hb, by simp, hnone⟩
          · simp [hentries, Entry.package?, h.package]
          · simp [hentries, Entry.type?, h.imports]
          · simp [hentries, Entry.static?, h.statics]

/-- Reading lines keeps a table to what the lines say. -/
theorem Notes.readLines {lines : List (List Char)} (h : table.Notes lines)
    (more : List (List Char)) :
    (table.readLines (Text.byteLength lines.flatten) more).Notes (lines ++ more) := by
  induction more generalizing table lines with
  | nil =>
      rw [List.append_nil]
      exact h
  | cons line more ih =>
      have hend : Text.byteLength lines.flatten + Text.byteLength line =
          Text.byteLength (lines ++ [line]).flatten := by
        simp
      have hread := ih (h.readLine line)
      rw [ImportTable.readLines, hend]
      rwa [List.append_assoc, List.singleton_append] at hread

/-- The place for imports lies between two lines, and no import stands behind it. -/
theorem Notes.insertionPoint_eq {lines : List (List Char)} (h : table.Notes lines) :
    ∃ a b, lines = a ++ b ∧
      Text.byteLength a.flatten = (table.importsEnd.or table.packageEnd).getD 0 ∧
      ∀ e ∈ b.filterMap Entry.ofLine?, ¬ e.IsImport := by
  obtain ⟨a, b, hlines, hend, hb⟩ := h.importsEnd
  rw [hend]
  by_cases ha : a = []
  · rw [if_pos ha, Option.none_or]
    rw [ha, List.nil_append] at hlines
    rw [← hlines] at hb
    cases hpackage : table.packageEnd with
    | none => exact ⟨[], lines, rfl, rfl, hb⟩
    | some n =>
        obtain ⟨a', b', hlines', ha'⟩ := h.packageEnd n hpackage
        refine ⟨a', b', hlines', ha', fun e he => hb e ?_⟩
        rw [hlines', List.filterMap_append]
        exact List.mem_append_right _ he
  · rw [if_neg ha]
    exact ⟨a, b, hlines, rfl, hb⟩

/-- The import table of a source is what its lines say. -/
theorem notes_ofSource (source : String) :
    (ofSource source).Notes (Text.linesWithEndings source.toList) := by
  have hread := notes_empty.readLines (Text.linesWithEndings source.toList)
  exact ⟨hread.package, hread.imports, hread.statics, hread.packageEnd, hread.importsEnd⟩

section Entries

variable (source : String)

theorem package_ofSource : (ofSource source).package =
    ((Entry.ofText source.toList).filterMap Entry.package?).getLast? :=
  (notes_ofSource source).package

theorem imports_ofSource : (ofSource source).imports =
    (Entry.ofText source.toList).filterMap Entry.type? :=
  (notes_ofSource source).imports

theorem statics_ofSource : (ofSource source).staticImports =
    (Entry.ofText source.toList).filterMap Entry.static? :=
  (notes_ofSource source).statics

end Entries

end ImportTable

end CallMigration
