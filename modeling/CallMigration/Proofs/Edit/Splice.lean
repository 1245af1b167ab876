import CallMigration.Proofs.Edit.Selection
import CallMigration.Proofs.Edit.Validity

/-!
# What a batch of edits makes of a source

Edits are made from the end of the source to its beginning, in place. What comes out is said here
by a walk from left to right over the untouched source: at each offset the texts that edits put in
there, insertions before replacements, then the next character unless a replaced range covers it
(`Edit.splice`). The laws of the walk are those of its steps: it copies what lies in front of all
edits (`spliceFrom_skip`) and puts the text of the first edit in the place of its range
(`spliceFrom_first`).
-/

namespace CallMigration

namespace Edit

/-- Whether the byte at an offset is replaced. -/
def covers (e : Edit) (offset : Nat) : Bool := e.range.start ≤ offset && offset < e.range.stop

/-- Whether the edit inserts at an offset. -/
def insertsAt (e : Edit) (offset : Nat) : Bool := e.isInsertion && e.range.start == offset

/-- Whether the edit replaces a range that begins at an offset. -/
def replacesAt (e : Edit) (offset : Nat) : Bool := !e.isInsertion && e.range.start == offset

/-- What edits put in at an offset: the text of an insertion, then that of a replacement. -/
def textsAt (edits : List Edit) (offset : Nat) : List Char :=
  (edits.filter (·.insertsAt offset) ++ edits.filter (·.replacesAt offset)).flatMap (·.text.toList)

/-- Walks over the rest of a source that begins at an offset. -/
def spliceFrom (edits : List Edit) (offset : Nat) : List Char → List Char
  | [] => textsAt edits offset
  | c :: rest =>
      textsAt edits offset ++ (if edits.any (·.covers offset) then [] else [c]) ++
        spliceFrom edits (offset + c.utf8Size) rest

/-- The source with the texts of edits in the places of their ranges. -/
def splice (source : String) (edits : List Edit) : String :=
  String.ofList (spliceFrom edits 0 source.toList)

/-- Whether one edit may be made after another: it ends where the other begins, or before, and the
two do not overlap. -/
def Precedes (e later : Edit) : Prop :=
  e.range.stop ≤ later.range.start ∧ e.overlaps later = false

section Walk

variable {edits : List Edit} {e : Edit} {offset : Nat}

theorem textsAt_eq_nil (h : ∀ e ∈ edits, e.range.start ≠ offset) : textsAt edits offset = [] := by
  have hins : edits.filter (·.insertsAt offset) = [] := by
    simpa [insertsAt] using fun e he _ => h e he
  have hrep : edits.filter (·.replacesAt offset) = [] := by
    simpa [replacesAt] using fun e he _ => h e he
  simp [textsAt, hins, hrep]

/-- Text in front of all edits is copied. -/
theorem spliceFrom_skip {gap rest : List Char}
    (h : ∀ e ∈ edits, offset + Text.byteLength gap ≤ e.range.start) :
    spliceFrom edits offset (gap ++ rest) =
      gap ++ spliceFrom edits (offset + Text.byteLength gap) rest := by
  induction gap generalizing offset with
  | nil => simp
  | cons c gap ih =>
      have hpos := c.utf8Size_pos
      simp only [Text.byteLength_cons] at h ⊢
      have htexts : textsAt edits offset = [] :=
        textsAt_eq_nil fun e he => by have := h e he; omega
      have hcovered : edits.any (·.covers offset) = false := by
        simp only [List.any_eq_false, covers, Bool.and_eq_true, decide_eq_true_eq, not_and]
        intro e he hstart
        have := h e he
        omega
      have hrest : spliceFrom edits (offset + c.utf8Size) (gap ++ rest) =
          gap ++ spliceFrom edits (offset + c.utf8Size + Text.byteLength gap) rest :=
        ih fun e he => by have := h e he; omega
      simp [spliceFrom, htexts, hcovered, hrest, Nat.add_assoc]

/-- What is put in at an offset stands in what the walk gives. -/
theorem textsAt_infix_spliceFrom (edits : List Edit) (offset : Nat) (passed rest : List Char) :
    textsAt edits (offset + Text.byteLength passed) <:+:
      spliceFrom edits offset (passed ++ rest) := by
  induction passed generalizing offset with
  | nil =>
      cases rest with
      | nil => exact List.infix_rfl
      | cons c rest =>
          rw [List.nil_append, Text.byteLength_nil, Nat.add_zero, spliceFrom, List.append_assoc]
          exact (List.prefix_append _ _).isInfix
  | cons c passed ih =>
      have hrest := ih (offset + c.utf8Size)
      rw [Text.byteLength_cons, ← Nat.add_assoc, List.cons_append, spliceFrom]
      exact hrest.trans (List.suffix_append _ _).isInfix

/-- An edit that lies behind is of no account for the rest of the walk. -/
theorem spliceFrom_passed (hstart : e.range.start < offset) (hstop : e.range.stop ≤ offset)
    (text : List Char) : spliceFrom (edits ++ [e]) offset text = spliceFrom edits offset text := by
  induction text generalizing offset with
  | nil => simp [spliceFrom, textsAt, insertsAt, replacesAt, Nat.ne_of_lt hstart]
  | cons c rest ih =>
      have hcovers : e.covers offset = false := by
        simp only [covers, Bool.and_eq_false_iff, decide_eq_false_iff_not]
        omega
      have htexts : textsAt (edits ++ [e]) offset = textsAt edits offset := by
        simp [textsAt, insertsAt, replacesAt, Nat.ne_of_lt hstart]
      simp [spliceFrom, htexts, hcovers, ih (by omega : e.range.start < offset + c.utf8Size)
        (by omega)]

/-- The rest of a replaced range is dropped. -/
theorem spliceFrom_inside {inside rest : List Char} (hstart : e.range.start < offset)
    (hstop : offset + Text.byteLength inside = e.range.stop)
    (hlater : ∀ f ∈ edits, e.range.stop ≤ f.range.start) :
    spliceFrom (edits ++ [e]) offset (inside ++ rest) = spliceFrom edits e.range.stop rest := by
  induction inside generalizing offset with
  | nil =>
      obtain rfl : offset = e.range.stop := by simpa using hstop
      exact spliceFrom_passed hstart (Nat.le_refl _) rest
  | cons c inside ih =>
      have hpos := c.utf8Size_pos
      simp only [Text.byteLength_cons] at hstop
      have htexts : textsAt (edits ++ [e]) offset = [] := by
        apply textsAt_eq_nil
        intro f hf
        rcases List.mem_append.mp hf with hf | hf
        · have := hlater f hf
          omega
        · rw [List.mem_singleton.mp hf]
          omega
      have hcovers : e.covers offset = true := by
        simp only [covers, Bool.and_eq_true, decide_eq_true_eq]
        omega
      have hrest : spliceFrom (edits ++ [e]) (offset + c.utf8Size) (inside ++ rest) =
          spliceFrom edits e.range.stop rest := ih (by omega) (by omega)
      simp [spliceFrom, htexts, hcovers, hrest]

/-- Where an edit begins that precedes all others, its text comes first. -/
theorem textsAt_first (hforward : e.range.start ≤ e.range.stop)
    (hlater : ∀ f ∈ edits, e.Precedes f) :
    textsAt (edits ++ [e]) e.range.start = e.text.toList ++ textsAt edits e.range.start := by
  have hins : edits.filter (·.insertsAt e.range.start) = [] := by
    rw [List.filter_eq_nil_iff]
    intro f hf hinserts
    obtain ⟨hstop, hfree⟩ := hlater f hf
    simp only [insertsAt, isInsertion, Bool.and_eq_true, beq_iff_eq] at hinserts
    simp only [overlaps, isInsertion, Bool.and_eq_true, beq_iff_eq] at hfree
    rw [if_pos (by omega)] at hfree
    simp [hinserts.2] at hfree
  by_cases hempty : e.range.start = e.range.stop
  · have he : e.insertsAt e.range.start = true ∧ e.replacesAt e.range.start = false := by
      simp [insertsAt, replacesAt, isInsertion, hempty]
    simp [textsAt, hins, he]
  · have hrep : edits.filter (·.replacesAt e.range.start) = [] := by
      rw [List.filter_eq_nil_iff]
      intro f hf hreplaces
      have := (hlater f hf).1
      simp only [replacesAt, Bool.and_eq_true, beq_iff_eq] at hreplaces
      omega
    have he : e.insertsAt e.range.start = false ∧ e.replacesAt e.range.start = true := by
      simp [insertsAt, replacesAt, isInsertion, hempty]
    simp [textsAt, hins, hrep, he]

/-- From where an edit begins that precedes all others, its text comes first and its range is left
out. -/
theorem spliceFrom_first {inside rest : List Char}
    (hsize : e.range.start + Text.byteLength inside = e.range.stop)
    (hlater : ∀ f ∈ edits, e.Precedes f) :
    spliceFrom (edits ++ [e]) e.range.start (inside ++ rest) =
      e.text.toList ++ spliceFrom edits e.range.stop rest := by
  have htexts := textsAt_first (by omega) hlater
  cases inside with
  | nil =>
      have hempty : e.range.stop = e.range.start := by simpa using hsize.symm
      have hcovers : e.covers e.range.start = false := by simp [covers, hempty]
      rw [hempty]
      cases rest with
      | nil => simp [spliceFrom, htexts]
      | cons c rest =>
          have hpos := c.utf8Size_pos
          have hpassed : spliceFrom (edits ++ [e]) (e.range.start + c.utf8Size) rest =
              spliceFrom edits (e.range.start + c.utf8Size) rest :=
            spliceFrom_passed (by omega) (by omega) rest
          simp [spliceFrom, htexts, hcovers, hpassed]
  | cons c inside =>
      have hpos := c.utf8Size_pos
      simp only [Text.byteLength_cons] at hsize
      have hnone : textsAt edits e.range.start = [] := by
        apply textsAt_eq_nil
        intro f hf
        have := (hlater f hf).1
        omega
      have hcovers : e.covers e.range.start = true := by
        simp only [covers, Bool.and_eq_true, decide_eq_true_eq]
        omega
      have hinside : spliceFrom (edits ++ [e]) (e.range.start + c.utf8Size) (inside ++ rest) =
          spliceFrom edits e.range.stop rest :=
        spliceFrom_inside (by omega) (by omega) fun f hf => (hlater f hf).1
      simp [spliceFrom, htexts, hnone, hcovers, hinside]

end Walk

end Edit

end CallMigration
