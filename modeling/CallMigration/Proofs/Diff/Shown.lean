import CallMigration.Proofs.Diff.Patch
import Mathlib.Data.List.Sort

/-!
# Which steps a diff prints

The hunks of a diff print the steps near a change and no others (`Diff.covers_unified`). Read one
after the other they give the positions of those steps in order, so that none is printed twice.
Between two hunks there is a step that is not printed, and no hunk is there for kept lines alone.
-/

namespace CallMigration.Diff

namespace Script

/-- Whether a step that changes something is at most so many positions away from a position. -/
def isNear (script : Script) (distance i : Nat) : Bool :=
  script.zipIdx.any fun (step, j) => step.isChange && (i ≤ j + distance && j ≤ i + distance)

theorem isNear_iff {script : Script} {distance i : Nat} :
    script.isNear distance i = true ↔
      ∃ change ∈ script.changes, i ≤ change + distance ∧ change ≤ i + distance := by
  rw [isNear, List.any_eq_true]
  simp only [Prod.exists, List.mem_zipIdx_iff_getElem?, Bool.and_eq_true, decide_eq_true_eq,
    mem_changes]
  constructor
  · rintro ⟨step, j, hstep, hchange, hnear⟩
    exact ⟨j, ⟨step, hstep, hchange⟩, hnear⟩
  · rintro ⟨j, ⟨step, hstep, hchange⟩, hnear⟩
    exact ⟨step, j, hstep, hchange, hnear⟩

end Script

namespace Hunk

/-- The positions of the steps that a hunk shows. -/
def places (hunk : Hunk) : List Nat := List.range' hunk.start (hunk.stop - hunk.start)

theorem mem_places {hunk : Hunk} {i : Nat} : i ∈ hunk.places ↔ hunk.Shows i := by
  rw [places, List.mem_range'_1, Shows]
  omega

/-- A stretch of a list is what stands at its places. -/
theorem take_drop_eq_filterMap {α : Type} (items : List α) (start size : Nat) :
    (items.drop start).take size = (List.range' start size).filterMap (items[·]?) := by
  induction size generalizing start with
  | zero => simp
  | succ size ih =>
      rw [List.range'_succ, List.filterMap_cons]
      by_cases hstart : start < items.length
      · rw [List.drop_eq_getElem_cons hstart, List.take_succ_cons, ih,
          List.getElem?_eq_getElem hstart]
      · rw [List.getElem?_eq_none (by omega), ← ih, List.drop_eq_nil_of_le (by omega),
          List.drop_eq_nil_of_le (by omega)]
        simp

/-- A hunk shows the steps at its places. -/
theorem steps_eq_filterMap (hunk : Hunk) (script : Script) :
    hunk.steps script = hunk.places.filterMap (script[·]?) :=
  take_drop_eq_filterMap script hunk.start (hunk.stop - hunk.start)

section Gaps

variable {hunks : List Hunk} (hgaps : hunks.Pairwise fun hunk later => hunk.stop < later.start)
include hgaps

/-- Hunks with a gap between any two list their places in order. -/
theorem pairwise_places : (hunks.flatMap places).Pairwise (· < ·) := by
  rw [List.pairwise_flatMap]
  refine ⟨fun hunk _ => List.pairwise_lt_range', hgaps.imp ?_⟩
  intro hunk later hgap i hi j hj
  obtain ⟨-, hstop⟩ := mem_places.mp hi
  obtain ⟨hstart, -⟩ := mem_places.mp hj
  omega

/-- Any two of the hunks are one or have a gap between them. -/
theorem eq_or_gap {hunk other : Hunk} (hhunk : hunk ∈ hunks) (hother : other ∈ hunks) :
    hunk = other ∨ hunk.stop < other.start ∨ other.stop < hunk.start := by
  let apart (x y : Hunk) : Prop := x = y ∨ x.stop < y.start ∨ y.stop < x.start
  have hself : ∀ x ∈ hunks, apart x x := fun x _ => Or.inl rfl
  have hbefore : hunks.Pairwise apart := hgaps.imp fun h => Or.inr (Or.inl h)
  have hbehind : hunks.Pairwise (flip apart) := hgaps.imp fun h => Or.inr (Or.inr h)
  exact List.Pairwise.forall_of_forall_of_flip hself hbefore hbehind hhunk hother

/-- One of the hunks at most shows a position. -/
theorem eq_of_shows {hunk other : Hunk} (hhunk : hunk ∈ hunks) (hother : other ∈ hunks) {i : Nat}
    (h : hunk.Shows i) (h' : other.Shows i) : hunk = other := by
  unfold Shows at h h'
  rcases eq_or_gap hgaps hhunk hother with heq | hgap
  · exact heq
  · omega

/-- None of the hunks shows the position where one of them stops. -/
theorem not_shows_stop {hunk shown : Hunk} (hhunk : hunk ∈ hunks) (hshown : shown ∈ hunks)
    (hforward : hunk.start ≤ hunk.stop) : ¬ shown.Shows hunk.stop := by
  intro h
  unfold Shows at h
  rcases eq_or_gap hgaps hhunk hshown with rfl | hgap
  · omega
  · omega

end Gaps

/-- Whether hunks print the steps of a script that are near a change. -/
structure Covers (hunks : List Hunk) (script : Script) (context : Nat) : Prop where
  /-- One after the other, they show the positions of those steps in order. -/
  places : hunks.flatMap Hunk.places = (List.range script.length).filter (script.isNear context)
  change : ∀ i step, script[i]? = some step → step.isChange = true →
    ∃! hunk, hunk ∈ hunks ∧ i ∈ hunk.places
  /-- Between two of them there is a step that none of them shows. -/
  gap : ∀ before hunk next after, hunks = before ++ hunk :: next :: after →
    ∃ i < script.length, hunk.stop ≤ i ∧ i < next.start ∧ ∀ shown ∈ hunks, i ∉ shown.places
  /-- None of them shows kept lines alone. -/
  shown : ∀ hunk ∈ hunks, ∃ step ∈ hunk.steps script, step.isChange = true

section OfScript

variable {context : Nat} {script : Script} (hsize : script.length + context < positions)
include hsize

/-- The places of the hunks are the positions near a change, each once and in order. -/
theorem flatMap_places_ofScript :
    (ofScript context script).flatMap places =
      (List.range script.length).filter (script.isNear context) := by
  refine List.Pairwise.eq_of_mem_iff (pairwise_places (pairwise_ofScript hsize))
    (List.pairwise_lt_range.filter _) ?_
  intro i
  rw [List.mem_filter, List.mem_range, Script.isNear_iff, ← shows_ofScript_iff hsize,
    List.mem_flatMap]
  simp only [mem_places]

/-- The hunks of a script print the steps near its changes. -/
theorem covers_ofScript : Covers (ofScript context script) script context := by
  have hgaps := pairwise_ofScript hsize
  refine ⟨flatMap_places_ofScript hsize, ?change, ?gap, ?shown⟩
  case change =>
    intro i step hstep hchange
    obtain ⟨hunk, hhunk, hshows⟩ :=
      exists_shows_of_mem_changes hsize (Script.mem_changes.mpr ⟨step, hstep, hchange⟩)
    refine ⟨hunk, ⟨hhunk, mem_places.mpr hshows⟩, ?_⟩
    intro other hother
    exact eq_of_shows hgaps hother.1 hhunk (mem_places.mp hother.2) hshows
  case gap =>
    intro before hunk next after hsplit
    have hhunk : hunk ∈ ofScript context script := by simp [hsplit]
    have hnext : next ∈ ofScript context script := by simp [hsplit]
    obtain ⟨i, -, hi⟩ := exists_change_of_mem_ofScript hsize hunk hhunk
    obtain ⟨j, hj, hshowsNext⟩ := exists_change_of_mem_ofScript hsize next hnext
    have hgap : hunk.stop < next.start := by
      rw [hsplit, List.pairwise_append, List.pairwise_cons] at hgaps
      exact hgaps.2.1.1 next List.mem_cons_self
    have hlength := Script.lt_length_of_mem_changes hj
    unfold Shows at hi hshowsNext
    refine ⟨hunk.stop, by omega, Nat.le_refl _, hgap, ?_⟩
    intro shown hshown hplace
    exact not_shows_stop (pairwise_ofScript hsize) hhunk hshown (by omega)
      (mem_places.mp hplace)
  case shown =>
    intro hunk hhunk
    obtain ⟨i, hi, hshows⟩ := exists_change_of_mem_ofScript hsize hunk hhunk
    obtain ⟨step, hstep, hchange⟩ := Script.mem_changes.mp hi
    refine ⟨step, ?_, hchange⟩
    rw [steps_eq_filterMap, List.mem_filterMap]
    exact ⟨i, mem_places.mpr hshows, hstep⟩

end OfScript

end Hunk

/-- **A diff prints the steps near changes.** Let there be few enough steps to count on by the
context. The diff of texts with the same lines is empty. Otherwise it has two title lines and then,
behind each hunk's header, the steps at its places. Those places are the positions at most the
context away from a change, each once and in order. Every change is in one hunk only, between two
hunks a step is left out, and each hunk shows a change. -/
theorem covers_unified {old new : String} {path : Path} {context : Nat}
    (hsize : (Script.ofLines (linesOf old) (linesOf new)).length + context + 1 < UInt64.size) :
    let script := Script.ofLines (linesOf old) (linesOf new)
    let hunks := Hunk.ofScript context script
    (linesOf old = linesOf new → unified old new path context = "") ∧
      (linesOf old ≠ linesOf new → unified old new path context =
        String.join ((("--- a/" ++ path.text) :: ("+++ b/" ++ path.text) ::
          hunks.flatMap fun hunk =>
            hunk.header script :: hunk.places.filterMap fun i => script[i]?.map Step.line).map
              (· ++ "\n"))) ∧
      Hunk.Covers hunks script context := by
  intro script hunks
  have hcount : script.length + context < Hunk.positions := Nat.lt_of_succ_lt hsize
  have hnone : hunks = [] ↔ linesOf old = linesOf new :=
    (Hunk.ofScript_eq_nil_iff hcount).trans Script.changes_ofLines_eq_nil_iff
  refine ⟨?same, ?changed, Hunk.covers_ofScript hcount⟩
  case same =>
    intro hsame
    have hlines : script.unifiedLines path context = [] := by
      rw [Script.unifiedLines, show Hunk.ofScript context script = [] from hnone.mpr hsame]
    rw [unified, hlines]
    rfl
  case changed =>
    intro hchanged
    have hlines : ∀ hunk : Hunk, hunk.lines script =
        hunk.header script :: hunk.places.filterMap fun i => script[i]?.map Step.line := by
      intro hunk
      rw [Hunk.lines, Hunk.steps_eq_filterMap, List.map_filterMap]
    rw [unified, Script.unifiedLines_of_ne_nil path (mt hnone.mp hchanged)]
    simp only [hlines]
    rfl

/-- A text whose first and last line are replaced. -/
def reframed : String × String := ("a\nb\nc\nd\ne\nf\n", "x\nb\nc\nd\ne\ny\n")

/-- With one line of context, the two lines in the middle are not printed. -/
theorem covers_unified_reframed :
    let script := Script.ofLines (linesOf reframed.1) (linesOf reframed.2)
    script.length + 1 + 1 < UInt64.size ∧
      unified reframed.1 reframed.2 ⟨"A.java"⟩ 1 =
        "--- a/A.java\n+++ b/A.java\n@@ -1,2 +1,2 @@\n-a\n+x\n b\n@@ -5,2 +5,2 @@\n e\n-f\n+y\n" ∧
      (Hunk.ofScript 1 script).flatMap Hunk.places = [0, 1, 2, 5, 6, 7] := by
  intro script
  have hsize : script.length + 1 + 1 < UInt64.size := by decide +kernel
  have hchanged : linesOf reframed.1 ≠ linesOf reframed.2 := by decide +kernel
  obtain ⟨-, htext, hcovers⟩ := @covers_unified reframed.1 reframed.2 ⟨"A.java"⟩ 1 hsize
  refine ⟨hsize, (htext hchanged).trans (by decide +kernel), ?_⟩
  exact hcovers.places.trans (by decide +kernel)

end CallMigration.Diff
