import CallMigration.Diff
import CallMigration.Proofs.Diff.Hunk
import CallMigration.Proofs.Diff.Patcher

/-!
# Unified diffs are patches

At every position of a script a patcher has a place: it has passed the lines before the position
and made those after it (`Patcher.at`). Reading a hunk takes it from where the hunk before ends to
where this one ends, since nothing changes between the two (`Patcher.foldlM_hunk`). So a strict
patcher makes the new lines from the old ones and the diff (`patch?_unified`).
-/

namespace CallMigration.Diff

namespace Script

variable {script : Script}

theorem before_cons (step : Step) (script : Script) :
    before (step :: script) = step.before?.toList ++ script.before := by
  cases step <;> rfl

theorem after_cons (step : Step) (script : Script) :
    after (step :: script) = step.after?.toList ++ script.after := by
  cases step <;> rfl

/-- A script without changes starts from what it ends with. -/
theorem before_eq_after (h : ∀ step ∈ script, step.isChange = false) :
    script.before = script.after := by
  induction script with
  | nil => rfl
  | cons step script ih =>
      rw [List.forall_mem_cons] at h
      cases step with
      | keep line => rw [before_keep, after_keep, ih h.2]
      | remove line => cases h.1
      | add line => cases h.1

/-- A step that is not listed changes nothing. -/
theorem isChange_eq_false {step : Step} {i : Nat} (hget : script[i]? = some step)
    (h : i ∉ script.changes) : step.isChange = false :=
  Bool.eq_false_iff.mpr fun hchange => h (mem_changes.mpr ⟨step, hget, hchange⟩)

/-- The steps before a position and those from there to another one. -/
theorem take_append_between {first stop : Nat} (h : first ≤ stop) (script : Script) :
    script.take first ++ (script.drop first).take (stop - first) = script.take stop := by
  rw [← List.take_add, Nat.add_sub_cancel' h]

/-- The steps from a position to another one and those behind it. -/
theorem between_append_drop {first stop : Nat} (h : first ≤ stop) (script : Script) :
    (script.drop first).take (stop - first) ++ script.drop stop = script.drop first := by
  have hdrop : script.drop stop = (script.drop first).drop (stop - first) := by
    rw [List.drop_drop, Nat.add_sub_cancel' h]
  rw [hdrop, List.take_append_drop]

/-- No step between two positions is a change if none is listed there. -/
theorem isChange_of_mem_take_drop {first stop : Nat}
    (h : ∀ i ∈ script.changes, first ≤ i → stop ≤ i) :
    ∀ step ∈ (script.drop first).take (stop - first), step.isChange = false := by
  intro step hstep
  obtain ⟨k, hk, hget⟩ := List.mem_iff_getElem.mp hstep
  rw [List.getElem_take, List.getElem_drop] at hget
  rw [List.length_take] at hk
  refine isChange_eq_false (List.getElem?_eq_some_iff.mpr ⟨_, hget⟩) fun hlisted => ?_
  have hbehind := h _ hlisted (Nat.le_add_right first k)
  omega

theorem changes_eq_nil_iff : script.changes = [] ↔ ∀ step ∈ script, step.isChange = false := by
  constructor
  · intro hnone step hstep
    obtain ⟨k, hk⟩ := List.mem_iff_getElem?.mp hstep
    exact isChange_eq_false hk (hnone ▸ List.not_mem_nil)
  · intro hkept
    refine List.eq_nil_iff_forall_not_mem.mpr fun i hi => ?_
    obtain ⟨step, hstep, hchange⟩ := mem_changes.mp hi
    rw [hkept step (List.mem_of_getElem? hstep)] at hchange
    cases hchange

theorem commonStart_self (a : List String) : commonStart a a = a.length := by
  induction a with
  | nil => rfl
  | cons x a ih => rw [commonStart, if_pos rfl, ih, List.length_cons]

/-- Equal lists have a script that keeps all lines. -/
theorem ofLines_self (a : List String) : ofLines a a = a.map .keep := by
  simp [ofLines, commonStart_self, ofMiddles, follow]

/-- The script of two lists has no changes exactly if they are equal. -/
theorem changes_ofLines_eq_nil_iff {a b : List String} : (ofLines a b).changes = [] ↔ a = b := by
  rw [changes_eq_nil_iff]
  constructor
  · intro hkept
    calc a = (ofLines a b).before := (before_ofLines a b).symm
      _ = (ofLines a b).after := before_eq_after hkept
      _ = b := after_ofLines a b
  · rintro rfl
    rw [ofLines_self]
    exact List.forall_mem_map.mpr fun _ _ => rfl

end Script

/-- What the header of a hunk is to say. -/
def Hunk.placement (hunk : Hunk) (script : Script) : Placement :=
  let shown : Script := hunk.steps script
  let earlier : Script := script.take hunk.start
  { oldLine := lineNumber earlier.before.length shown.before.length
    oldSize := shown.before.length
    newLine := lineNumber earlier.after.length shown.after.length
    newSize := shown.after.length }

/-- The header of a hunk is read back. -/
theorem Placement.read?_header (hunk : Hunk) (script : Script) :
    read? (hunk.header script).toList = some (hunk.placement script) := by
  have hheader : (hunk.header script).toList =
      "@@ -".toList ++ ((toString (hunk.placement script).oldLine).toList ++ ',' ::
        ((toString (hunk.placement script).oldSize).toList ++
          (" +".toList ++ ((toString (hunk.placement script).newLine).toList ++ ',' ::
            ((toString (hunk.placement script).newSize).toList ++ " @@".toList))))) := by
    simp [Hunk.header, Hunk.placement]
  rw [hheader, read?, side?_append _ _ _ (by rintro c ⟨⟩; decide)]
  simp only [Option.bind_eq_bind, Option.bind_some]
  rw [side?_append _ _ _ (by rintro c ⟨⟩; decide)]
  rfl

theorem Placement.linesBefore?_lineNumber (before size : Nat) :
    linesBefore? (lineNumber before size) size = some before := by
  unfold linesBefore? lineNumber
  split <;> simp

namespace Patcher

/-- The place of a patcher at a position of a script, between hunks. -/
def placeAt (script : Script) (i : Nat) : Patcher :=
  ⟨Script.before (script.drop i), (Script.before (script.take i)).length,
    Script.after (script.take i), 0, 0⟩

section Body

variable {rest made : List String} {passed : Nat}

/-- A patcher in a hunk reads the line of a step as it is meant. -/
theorem step?_line (step : Step) (steps : Script) :
    step? ⟨Script.before (step :: steps) ++ rest, passed, made,
        (Script.before (step :: steps)).length, (Script.after (step :: steps)).length⟩
        step.line.toList =
      some ⟨steps.before ++ rest, passed + step.before?.toList.length,
        made ++ step.after?.toList, steps.before.length, steps.after.length⟩ := by
  cases step <;>
    simp [step?, AtRest, Step.line, change?, pass?, make?, Step.before?, Step.after?]

/-- The lines of steps lead a patcher in a hunk to the end of the hunk. -/
theorem foldlM_steps (steps : Script) :
    (steps.map fun step => step.line.toList).foldlM step?
        ⟨steps.before ++ rest, passed, made, steps.before.length, steps.after.length⟩ =
      some ⟨rest, passed + steps.before.length, made ++ steps.after, 0, 0⟩ := by
  induction steps generalizing passed made with
  | nil => simp [Script.before, Script.after]
  | cons step steps ih =>
      rw [List.map_cons, List.foldlM_cons, step?_line]
      simp only [Option.bind_eq_bind, Option.bind_some, ih, Script.before_cons, Script.after_cons,
        List.length_append, List.append_assoc, Nat.add_assoc]

end Body

section Hunks

variable {script : Script} {hunk : Hunk} {i : Nat}

/-- The header of a hunk takes a patcher from the end of the hunk before to the beginning of this
one. -/
theorem begin?_placement (hfirst : i ≤ hunk.start)
    (hkept : ∀ change ∈ script.changes, i ≤ change → hunk.start ≤ change) :
    (placeAt script i).begin? (hunk.placement script) =
      some ⟨Script.before (script.drop hunk.start),
        (Script.before (script.take hunk.start)).length, Script.after (script.take hunk.start),
        (hunk.steps script).before.length, (hunk.steps script).after.length⟩ := by
  -- The steps between the two hunks keep all lines, so that they are the same on both sides.
  let kept : Script := (script.drop i).take (hunk.start - i)
  have hsame : kept.before = kept.after :=
    Script.before_eq_after (Script.isChange_of_mem_take_drop hkept)
  have hbefore : Script.before (script.take hunk.start) =
      Script.before (script.take i) ++ kept.before := by
    rw [← Script.take_append_between hfirst, Script.before_append]
  have hafter : Script.after (script.take hunk.start) =
      Script.after (script.take i) ++ kept.before := by
    rw [← Script.take_append_between hfirst, Script.after_append, hsame]
  have hrest : Script.before (script.drop i) =
      kept.before ++ Script.before (script.drop hunk.start) := by
    rw [← Script.between_append_drop hfirst, Script.before_append]
  have hpassed : (Script.before (script.take hunk.start)).length -
      (Script.before (script.take i)).length = kept.before.length := by
    rw [hbefore, List.length_append, Nat.add_sub_cancel_left]
  have hmoved : (Script.before (script.take i)).length ≤
      (Script.before (script.take hunk.start)).length := by
    rw [hbefore, List.length_append]
    exact Nat.le_add_right _ _
  have hleft : kept.before.length ≤
      (kept.before ++ Script.before (script.drop hunk.start)).length := by
    rw [List.length_append]
    exact Nat.le_add_right _ _
  simp only [begin?, placeAt, Hunk.placement, Placement.linesBefore?_lineNumber,
    Option.bind_eq_bind, Option.bind_some, hpassed, hrest, List.take_left, List.drop_left,
    ← hafter, hmoved, hleft, and_self, if_true]

/-- **Reading a hunk.** From the end of the hunk before, the lines of a hunk take a patcher to the
end of this one. -/
theorem foldlM_hunk (hfirst : i ≤ hunk.start) (hforward : hunk.start < hunk.stop)
    (hkept : ∀ change ∈ script.changes, i ≤ change → hunk.start ≤ change) :
    ((hunk.lines script).map String.toList).foldlM step? (placeAt script i) =
      some (placeAt script hunk.stop) := by
  have hrest : Script.before (script.drop hunk.start) =
      (hunk.steps script).before ++ Script.before (script.drop hunk.stop) := by
    rw [← Script.between_append_drop (Nat.le_of_lt hforward), Script.before_append]
    rfl
  have hpassed : Script.before (script.take hunk.stop) =
      Script.before (script.take hunk.start) ++ (hunk.steps script).before := by
    rw [← Script.take_append_between (Nat.le_of_lt hforward), Script.before_append]
    rfl
  have hmade : Script.after (script.take hunk.stop) =
      Script.after (script.take hunk.start) ++ (hunk.steps script).after := by
    rw [← Script.take_append_between (Nat.le_of_lt hforward), Script.after_append]
    rfl
  have hheader : (placeAt script i).step? (hunk.header script).toList =
      some ⟨(hunk.steps script).before ++ Script.before (script.drop hunk.stop),
        (Script.before (script.take hunk.start)).length, Script.after (script.take hunk.start),
        (hunk.steps script).before.length, (hunk.steps script).after.length⟩ := by
    have hrests : (placeAt script i).AtRest := ⟨rfl, rfl⟩
    rw [step?, if_pos hrests, Placement.read?_header, Option.bind_some,
      begin?_placement hfirst hkept, hrest]
  rw [Hunk.lines, List.map_cons, List.foldlM_cons, hheader, List.map_map]
  refine (foldlM_steps (hunk.steps script)).trans ?_
  rw [placeAt, hpassed, hmade, List.length_append]

/-- **Reading all hunks.** From the end of a hunk, the hunks that follow take a patcher behind the
last change of the script. -/
theorem foldlM_hunks {hunks : List Hunk}
    (hfirst : ∀ hunk ∈ hunks, i ≤ hunk.start)
    (hforward : ∀ hunk ∈ hunks, hunk.start < hunk.stop)
    (hgaps : hunks.Pairwise fun hunk later => hunk.stop < later.start)
    (hshown : ∀ change ∈ script.changes, i ≤ change → ∃ hunk ∈ hunks, hunk.Shows change) :
    ∃ j, ((hunks.flatMap fun hunk => hunk.lines script).map String.toList).foldlM step?
        (placeAt script i) = some (placeAt script j) ∧
      ∀ change ∈ script.changes, change < j := by
  induction hunks generalizing i with
  | nil =>
      refine ⟨i, rfl, fun change hchange => Nat.lt_of_not_le fun hle => ?_⟩
      obtain ⟨hunk, hnone, -⟩ := hshown change hchange hle
      cases hnone
  | cons hunk hunks ih =>
      rw [List.forall_mem_cons] at hfirst hforward
      rw [List.pairwise_cons] at hgaps
      -- A change before this hunk would be shown by a later one, which begins behind it.
      have hkept : ∀ change ∈ script.changes, i ≤ change → hunk.start ≤ change := by
        intro change hchange hle
        obtain ⟨shown, hmem, hshows⟩ := hshown change hchange hle
        rcases List.mem_cons.mp hmem with rfl | hlater
        · exact hshows.1
        · have hgap := hgaps.1 shown hlater
          have hfollows := hshows.1
          omega
      have hbehind : ∀ change ∈ script.changes, hunk.stop ≤ change →
          ∃ later ∈ hunks, later.Shows change := by
        intro change hchange hle
        obtain ⟨shown, hmem, hshows⟩ := hshown change hchange (by omega)
        rcases List.mem_cons.mp hmem with rfl | hlater
        · exact absurd hshows.2 (Nat.not_lt.mpr hle)
        · exact ⟨shown, hlater, hshows⟩
      obtain ⟨j, hread, hlast⟩ := ih (fun later hlater => Nat.le_of_lt (hgaps.1 later hlater))
        hforward.2 hgaps.2 hbehind
      refine ⟨j, ?_, hlast⟩
      rw [List.flatMap_cons, List.map_append, List.foldlM_append,
        foldlM_hunk hfirst.1 hforward.1 hkept]
      exact hread

/-- Behind all changes a patcher has made what the script ends with, but for the lines that are
left. -/
theorem finish?_placeAt (h : ∀ change ∈ script.changes, change < i) :
    (placeAt script i).finish? = some script.after := by
  have hkept : ∀ step ∈ script.drop i, step.isChange = false := by
    intro step hstep
    obtain ⟨k, hk⟩ := List.mem_iff_getElem?.mp hstep
    rw [List.getElem?_drop] at hk
    refine Script.isChange_eq_false hk fun hlisted => ?_
    have hlast := h _ hlisted
    omega
  have hrests : (placeAt script i).AtRest := ⟨rfl, rfl⟩
  rw [finish?, if_pos hrests, placeAt, Script.before_eq_after hkept, ← Script.after_append,
    List.take_append_drop]

theorem placeAt_zero (script : Script) : placeAt script 0 = start script.before := rfl

/-- **The hunks of a script make its changes.** They take a patcher through the lines that the
script starts from and have it make those that the script ends with. -/
theorem foldlM_ofScript {context : Nat} (hsize : script.length + context < Hunk.positions) :
    ∃ s, (((Hunk.ofScript context script).flatMap fun hunk => hunk.lines script).map
        String.toList).foldlM step? (start script.before) = some s ∧
      s.finish? = some script.after := by
  have hforward : ∀ hunk ∈ Hunk.ofScript context script, hunk.start < hunk.stop := by
    intro hunk hmem
    obtain ⟨change, -, hshows⟩ := Hunk.exists_change_of_mem_ofScript hsize hunk hmem
    exact Nat.lt_of_le_of_lt hshows.1 hshows.2
  have hshown : ∀ change ∈ script.changes, 0 ≤ change →
      ∃ hunk ∈ Hunk.ofScript context script, hunk.Shows change :=
    fun change hchange _ => Hunk.exists_shows_of_mem_changes hsize hchange
  obtain ⟨j, hread, hlast⟩ := foldlM_hunks (fun hunk _ => Nat.zero_le hunk.start) hforward
    (Hunk.pairwise_ofScript hsize) hshown
  rw [placeAt_zero] at hread
  exact ⟨placeAt script j, hread, finish?_placeAt hlast⟩

end Hunks

end Patcher

section Lines

variable {script : Script} {context : Nat}

theorem Script.unifiedLines_of_ne_nil (path : Path)
    (h : Hunk.ofScript context script ≠ []) :
    script.unifiedLines path context =
      ("--- a/" ++ path.text) :: ("+++ b/" ++ path.text) ::
        (Hunk.ofScript context script).flatMap fun hunk => hunk.lines script := by
  unfold unifiedLines
  split
  · next hnone => exact absurd hnone h
  · rfl

/-- Lines of texts hold no line feed. -/
theorem not_mem_of_mem_linesOf {text line : String} (h : line ∈ linesOf text) :
    '\n' ∉ line.toList := by
  obtain ⟨l, hl, rfl⟩ := List.mem_map.mp h
  rw [String.toList_ofList]
  exact Text.not_mem_of_mem_lines hl

/-- Neither does the line of a step, which is one of a text behind a sign. -/
theorem not_mem_line (hbefore : ∀ line ∈ script.before, '\n' ∉ line.toList)
    (hafter : ∀ line ∈ script.after, '\n' ∉ line.toList) :
    ∀ step ∈ script, '\n' ∉ step.line.toList := by
  intro step hstep
  cases step with
  | keep line =>
      simpa [Step.line] using hbefore line (List.mem_filterMap.mpr ⟨_, hstep, rfl⟩)
  | remove line =>
      simpa [Step.line] using hbefore line (List.mem_filterMap.mpr ⟨_, hstep, rfl⟩)
  | add line =>
      simpa [Step.line] using hafter line (List.mem_filterMap.mpr ⟨_, hstep, rfl⟩)

/-- The header of a hunk is written in digits and signs. -/
theorem not_mem_header (hunk : Hunk) (script : Script) : '\n' ∉ (hunk.header script).toList := by
  have hnumber : ∀ n : Nat, '\n' ∉ Nat.toDigits 10 n := fun n hmem =>
    absurd (Nat.isDigit_of_mem_toDigits (by decide) (by decide) hmem) (by decide)
  simp [Hunk.header, hnumber]

theorem not_mem_of_mem_unifiedLines {path : Path}
    (hpath : '\n' ∉ path.text.toList) (hlines : ∀ step ∈ script, '\n' ∉ step.line.toList) :
    ∀ line ∈ script.unifiedLines path context, '\n' ∉ line.toList := by
  unfold Script.unifiedLines
  split
  · simp
  · intro line hline
    rw [List.mem_cons, List.mem_cons, List.mem_flatMap] at hline
    rcases hline with rfl | rfl | ⟨hunk, -, hline⟩
    · simpa using hpath
    · simpa using hpath
    · rcases List.mem_cons.mp hline with rfl | hline
      · exact not_mem_header hunk script
      · obtain ⟨step, hstep, rfl⟩ := List.mem_map.mp hline
        exact hlines step (List.mem_of_mem_drop (List.mem_of_mem_take hstep))

end Lines

/-- **Unified diffs are patches.** For a path without a line feed and few enough steps to count on
by the context, the diff of two texts is empty exactly if they have the same lines. Otherwise a
strict patcher makes the lines of the new text from those of the old one and the diff. -/
theorem patch?_unified {old new : String} {path : Path} {context : Nat}
    (hpath : '\n' ∉ path.text.toList)
    (hsize : (Script.ofLines (linesOf old) (linesOf new)).length + context + 1 < UInt64.size) :
    (unified old new path context = "" ↔ linesOf old = linesOf new) ∧
      (linesOf old ≠ linesOf new →
        patch? (unified old new path context) (linesOf old) = some (linesOf new)) := by
  let script := Script.ofLines (linesOf old) (linesOf new)
  have hcount : script.length + context < Hunk.positions := Nat.lt_of_succ_lt hsize
  have hplain : ∀ line ∈ script.unifiedLines path context, '\n' ∉ line.toList := by
    refine not_mem_of_mem_unifiedLines hpath (not_mem_line ?_ ?_)
    · rw [Script.before_ofLines]
      exact fun line => not_mem_of_mem_linesOf
    · rw [Script.after_ofLines]
      exact fun line => not_mem_of_mem_linesOf
  have htext : (unified old new path context).toList =
      ((script.unifiedLines path context).map String.toList).flatMap (· ++ ['\n']) := by
    simp [unified, script, List.flatMap_map]
  have hnone : Hunk.ofScript context script = [] ↔ linesOf old = linesOf new :=
    (Hunk.ofScript_eq_nil_iff hcount).trans Script.changes_ofLines_eq_nil_iff
  by_cases hsame : linesOf old = linesOf new
  · refine ⟨iff_of_true ?_ hsame, fun hdiffer => absurd hsame hdiffer⟩
    rw [← String.toList_inj, htext, Script.unifiedLines, hnone.mpr hsame]
    rfl
  · have hhunks : Hunk.ofScript context script ≠ [] := mt hnone.mp hsame
    rw [Script.unifiedLines_of_ne_nil path hhunks] at htext hplain
    refine ⟨iff_of_false (fun hempty => ?_) hsame, fun _ => ?_⟩
    · rw [hempty] at htext
      simp at htext
    · obtain ⟨s, hread, hfinish⟩ := Patcher.foldlM_ofScript hcount
      rw [Script.before_ofLines] at hread
      rw [Script.after_ofLines] at hfinish
      rw [patch?, htext, Text.linesWithEndings_flatMap (List.forall_mem_map.mpr hplain)]
      simp only [List.map_cons, Patcher.foldlM_read?]
      rw [hread, Option.bind_some, hfinish]

/-- A text that loses its first line, gets one in the middle and one at its end. -/
def shifted : String × String := ("a\nb\nc\n", "b\nx\nc\nd")

/-- Without context the changes are three hunks, each with a side that shows no line. -/
theorem patch?_unified_shifted :
    unified shifted.1 shifted.2 ⟨"A.java"⟩ 0 =
        "--- a/A.java\n+++ b/A.java\n@@ -1,1 +0,0 @@\n-a\n@@ -2,0 +2,1 @@\n+x\n" ++
          "@@ -3,0 +4,1 @@\n+d\n" ∧
      patch? (unified shifted.1 shifted.2 ⟨"A.java"⟩ 0) ["a", "b", "c"] =
        some ["b", "x", "c", "d"] := by
  have hpath : '\n' ∉ (Path.mk "A.java").text.toList := by decide
  have hsize : (Script.ofLines (linesOf shifted.1) (linesOf shifted.2)).length + 0 + 1 <
      UInt64.size := by
    decide +kernel
  have hold : linesOf shifted.1 = ["a", "b", "c"] := by decide +kernel
  have hnew : linesOf shifted.2 = ["b", "x", "c", "d"] := by decide +kernel
  have hdiffer : linesOf shifted.1 ≠ linesOf shifted.2 := by
    rw [hold, hnew]
    decide
  have hpatch := (@patch?_unified shifted.1 shifted.2 ⟨"A.java"⟩ 0 hpath hsize).2 hdiffer
  rw [hold, hnew] at hpatch
  exact ⟨by decide +kernel, hpatch⟩

end CallMigration.Diff
