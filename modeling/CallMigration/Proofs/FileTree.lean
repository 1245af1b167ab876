import CallMigration.FileTree

/-!
# Writing to files that are there

A text written to a file that can be read changes neither where paths lead nor which files there are
(`FileTree.SameLayout`). So each of several texts arrives where its path led from the beginning, and
of all the texts for one file the last one stays (`FileTree.text?_writeAll`).
-/

namespace CallMigration

/-- What kind of content it is: a text counts as an empty one. -/
def Content.kind : Content → Content
  | .text _ => .text ""
  | .binary => .binary
  | .device => .device

namespace FileTree

/-- The location of the text file that a path leads to, if it leads to one. -/
def location? (tree : FileTree) (p : Path) : Option Location :=
  match tree.resolve p with
  | .ok location => if (tree.text? location).isSome then some location else none
  | .error _ => none

/-- Whether two trees hold files of the same kinds and directories at the same locations. -/
structure SameLayout (tree tree' : FileTree) : Prop where
  place : tree'.place = tree.place
  directory : ∀ location, tree'.hasDirectory location = tree.hasDirectory location
  kind : ∀ location,
    (tree'.content? location).map Content.kind = (tree.content? location).map Content.kind

variable {tree tree' : FileTree} {p : Path} {location : Location}

theorem text?_eq_some_iff {text : String} :
    tree.text? location = some text ↔ tree.content? location = some (.text text) := by
  unfold text?
  split
  · next found hfound => simp [hfound]
  · next hother =>
      constructor
      · intro h
        cases h
      · intro h
        exact absurd h (hother text)

/-- A file that holds a text is no device. -/
theorem content?_ne_device (h : (tree.text? location).isSome = true) :
    tree.content? location ≠ some .device := by
  intro hdevice
  rw [text?, hdevice] at h
  cases h

/-- What can be read at a path is the text of the file that it leads to, or nothing for a device. -/
theorem exists_location_of_read {text : String} (h : tree.read p = .ok text) :
    ∃ location, tree.resolve p = .ok location ∧
      (tree.content? location = some (.text text) ∨
        tree.content? location = some .device ∧ text = "") := by
  unfold read at h
  split at h
  · cases h
  · next location hlocation =>
      refine ⟨location, hlocation, ?_⟩
      split at h
      · next found hfound => exact Or.inl (Except.ok.inj h ▸ hfound)
      · cases h
      · next hdevice => exact Or.inr ⟨hdevice, (Except.ok.inj h).symm⟩
      · split at h <;> cases h

theorem location?_eq_some_iff :
    tree.location? p = some location ↔
      tree.resolve p = .ok location ∧ (tree.text? location).isSome = true := by
  unfold location?
  cases tree.resolve p with
  | error cause => simp
  | ok reached =>
      simp only [Option.ite_none_right_eq_some, Option.some.injEq, Except.ok.injEq]
      constructor
      · rintro ⟨hsome, rfl⟩
        exact ⟨rfl, hsome⟩
      · rintro ⟨rfl, hsome⟩
        exact ⟨hsome, rfl⟩

/-- What is read at a path is the text of the file that it leads to. -/
theorem text?_of_read {text : String} (h : tree.read p = .ok text) :
    ∀ location ∈ tree.location? p, tree.text? location = some text := by
  intro location hlocation
  obtain ⟨hresolve, hsome⟩ := location?_eq_some_iff.mp hlocation
  obtain ⟨reached, hreached, hcontent⟩ := exists_location_of_read h
  obtain rfl := Except.ok.inj (hresolve.symm.trans hreached)
  rcases hcontent with htext | ⟨hdevice, -⟩
  · exact text?_eq_some_iff.mpr htext
  · exact absurd hdevice (content?_ne_device hsome)

namespace SameLayout

theorem checkDirectory_eq (h : SameLayout tree tree') (location : Location) :
    tree'.checkDirectory location = tree.checkDirectory location := by
  have hsome := congrArg Option.isSome (h.kind location)
  rw [Option.isSome_map, Option.isSome_map] at hsome
  simp only [checkDirectory, h.directory, hsome]

theorem followAll_eq (h : SameLayout tree tree') (location : Location) (names : List String) :
    tree'.followAll location names = tree.followAll location names := by
  induction names generalizing location with
  | nil => rfl
  | cons name names ih => simp only [followAll, follow, h.checkDirectory_eq, ih]

/-- Paths lead to the same locations. -/
theorem resolve_eq (h : SameLayout tree tree') (p : Path) : tree'.resolve p = tree.resolve p := by
  simp only [resolve, h.place, h.followAll_eq]

theorem isSome_text?_eq (h : SameLayout tree tree') (location : Location) :
    (tree'.text? location).isSome = (tree.text? location).isSome := by
  have hkind := h.kind location
  unfold text?
  cases hnew : tree'.content? location with
  | none =>
      rw [hnew, Option.map_none, eq_comm, Option.map_eq_none_iff] at hkind
      rw [hkind]
  | some content =>
      rw [hnew, Option.map_some, eq_comm, Option.map_eq_some_iff] at hkind
      obtain ⟨old, hold, hsame⟩ := hkind
      rw [hold]
      cases content <;> cases old <;> first | rfl | cases hsame

theorem location?_eq (h : SameLayout tree tree') (p : Path) :
    tree'.location? p = tree.location? p := by
  simp only [location?, h.resolve_eq, h.isSome_text?_eq]

/-- What could be read can still be read. -/
theorem exists_read (h : SameLayout tree tree') {text : String} (hread : tree.read p = .ok text) :
    ∃ text', tree'.read p = .ok text' := by
  obtain ⟨location, hlocation, hcontent⟩ := exists_location_of_read hread
  have hkind := h.kind location
  unfold read
  rw [h.resolve_eq, hlocation]
  rcases hcontent with htext | ⟨hdevice, -⟩
  · rw [htext, Option.map_some, Option.map_eq_some_iff] at hkind
    obtain ⟨content, hnew, hsame⟩ := hkind
    simp only [hnew]
    cases content with
    | text text' => exact ⟨text', rfl⟩
    | binary | device => cases hsame
  · rw [hdevice, Option.map_some, Option.map_eq_some_iff] at hkind
    obtain ⟨content, hnew, hsame⟩ := hkind
    simp only [hnew]
    cases content with
    | device => exact ⟨"", rfl⟩
    | text | binary => cases hsame

end SameLayout

/-- Writing to a text file changes its text alone. -/
theorem sameLayout_write (h : (tree.text? location).isSome = true) (text : String) :
    SameLayout tree (tree.write location text) := by
  obtain ⟨old, hold⟩ := Option.isSome_iff_exists.mp h
  have hcontent := text?_eq_some_iff.mp hold
  have hwrite := write_of_content? hcontent nofun text
  constructor
  · rw [hwrite]
  · intro other
    have hkeys : ∀ entry : Location × Content,
        (if entry.1 = location then (entry.1, Content.text text) else (entry.1, entry.2)).1 =
          entry.1 := by
      intro entry
      split <;> rfl
    simp only [hwrite, hasDirectory, List.any_map, Function.comp_def, hkeys]
  · intro other
    rw [content?_write (content?_ne_device h)]
    split
    · next heq => rw [heq, hcontent, Option.map_some, Option.map_some, Content.kind, Content.kind]
    · rfl

theorem text?_write (h : (tree.text? location).isSome = true) (text : String)
    (other : Location) :
    (tree.write location text).text? other =
      if other = location then some text else tree.text? other := by
  unfold text?
  rw [content?_write (content?_ne_device h)]
  by_cases heq : other = location
  · rw [if_pos heq, if_pos heq]
  · rw [if_neg heq, if_neg heq]

/-- The text that a write puts at a location, if its path leads to a text file there. -/
def textAt? (tree : FileTree) (location : Location) (written : Path × String) : Option String :=
  if tree.location? written.1 = some location then some written.2 else none

/-- A text that is written where one can be read replaces the one that was read. -/
theorem writePath_of_read {old : String} (h : tree.read p = .ok old) (text : String) :
    tree.writePath p text =
      (tree.location? p).elim tree fun location => tree.write location text := by
  obtain ⟨location, hlocation, hcontent⟩ := exists_location_of_read h
  rw [writePath, location?, hlocation]
  rcases hcontent with htext | ⟨hdevice, -⟩
  · simp [text?_eq_some_iff.mpr htext]
  · simp [text?, hdevice, write_of_device hdevice]

theorem text?_writePath {old : String} (h : tree.read p = .ok old) (text : String)
    (location : Location) :
    (tree.writePath p text).text? location =
      (tree.textAt? location (p, text)).or (tree.text? location) := by
  rw [writePath_of_read h, textAt?]
  cases hreached : tree.location? p with
  | none => simp
  | some reached =>
      rw [Option.elim_some, text?_write (location?_eq_some_iff.mp hreached).2]
      by_cases heq : location = reached
      · simp [heq]
      · have hne : reached ≠ location := fun h => heq h.symm
        simp [heq, hne]

theorem sameLayout_writePath {old : String} (h : tree.read p = .ok old) (text : String) :
    SameLayout tree (tree.writePath p text) := by
  rw [writePath_of_read h]
  cases hreached : tree.location? p with
  | none => exact ⟨rfl, fun _ => rfl, fun _ => rfl⟩
  | some location => exact sameLayout_write (location?_eq_some_iff.mp hreached).2 text

/-- **The last text written to a file stays.** This is said of texts for files that can be read; all
paths are followed in the tree as it was. -/
theorem text?_writeAll {writes : List (Path × String)}
    (h : ∀ written ∈ writes, ∃ old, tree.read written.1 = .ok old) (location : Location) :
    (tree.writeAll writes).text? location =
      (writes.filterMap (tree.textAt? location)).getLast?.or (tree.text? location) := by
  induction writes generalizing tree with
  | nil => rfl
  | cons written writes ih =>
      obtain ⟨⟨old, hold⟩, hothers⟩ := List.forall_mem_cons.mp h
      have hlayout := sameLayout_writePath hold written.2
      have hrest : ∀ w ∈ writes,
          ∃ old, (tree.writePath written.1 written.2).read w.1 = .ok old := by
        intro w hw
        obtain ⟨text, htext⟩ := hothers w hw
        exact hlayout.exists_read htext
      have htextAt : (tree.writePath written.1 written.2).textAt? location =
          tree.textAt? location := by
        funext w
        rw [textAt?, textAt?, hlayout.location?_eq]
      have hstep : tree.writeAll (written :: writes) =
          (tree.writePath written.1 written.2).writeAll writes := rfl
      rw [hstep, ih hrest, htextAt, text?_writePath hold]
      cases hwritten : tree.textAt? location written with
      | none => simp [hwritten]
      | some text =>
          cases hlast : (writes.filterMap (tree.textAt? location)).getLast? <;>
            simp [hwritten, List.getLast?_cons, hlast]

end FileTree

end CallMigration
