import CallMigration.Diff.Script
import Mathlib.Data.List.Infix

/-!
# Scripts are shortest

The lines that a script keeps are a common subsequence of the two lists, and the more it keeps the
fewer changes it makes (`Script.cost_add_kept`). Following a table keeps as many lines as there can
be. That rests on what the cells of the table say: each is the length of a longest common
subsequence of two ends of the lists (`Script.table_eq`). Lines that both lists begin or end with
belong to a longest common subsequence, so that nothing is lost by keeping them first.

* `length_kept_follow`: following the table keeps as many lines as its first cell says;
* `isLongestCommon_kept_ofLines`: no script between two lists keeps more lines or makes fewer
  changes.
-/

namespace CallMigration.Diff

/-- Whether some lines are a common subsequence of two lists and no longer one exists. -/
structure IsLongestCommon (c a b : List String) : Prop where
  left : c.Sublist a
  right : c.Sublist b
  longest : ∀ d : List String, d.Sublist a → d.Sublist b → d.length ≤ c.length

namespace IsLongestCommon

variable {a b c : List String}

/-- A line that both lists begin with belongs to a longest common subsequence. -/
theorem cons (h : IsLongestCommon c a b) (x : String) :
    IsLongestCommon (x :: c) (x :: a) (x :: b) where
  left := h.left.cons_cons x
  right := h.right.cons_cons x
  longest := by
    intro d hleft hright
    have hrest := h.longest d.tail hleft.tail hright.tail
    rw [List.length_tail] at hrest
    rw [List.length_cons]
    omega

theorem append_left (h : IsLongestCommon c a b) (start : List String) :
    IsLongestCommon (start ++ c) (start ++ a) (start ++ b) := by
  induction start with
  | nil => exact h
  | cons x start ih => exact ih.cons x

theorem reverse (h : IsLongestCommon c a b) :
    IsLongestCommon c.reverse a.reverse b.reverse where
  left := h.left.reverse
  right := h.right.reverse
  longest := by
    intro d hleft hright
    have hrest := h.longest d.reverse (List.reverse_sublist.mp (by simpa using hleft))
      (List.reverse_sublist.mp (by simpa using hright))
    simpa using hrest

/-- So do lines that both lists end with. -/
theorem append_right (h : IsLongestCommon c a b) (stop : List String) :
    IsLongestCommon (c ++ stop) (a ++ stop) (b ++ stop) := by
  have hreversed := (h.reverse.append_left stop.reverse).reverse
  simpa using hreversed

end IsLongestCommon

/-- The length of a longest common subsequence. -/
def commonLength : List String → List String → Nat
  | [], _ => 0
  | _ :: _, [] => 0
  | x :: a, y :: b =>
      if x = y then commonLength a b + 1
      else max (commonLength a (y :: b)) (commonLength (x :: a) b)
termination_by a b => a.length + b.length

@[simp] theorem commonLength_nil_left (b : List String) : commonLength [] b = 0 := by
  rw [commonLength]

@[simp] theorem commonLength_nil_right (a : List String) : commonLength a [] = 0 := by
  cases a <;> rw [commonLength]

/-- No common subsequence is longer. -/
theorem length_le_commonLength {d a b : List String} (hleft : d.Sublist a) (hright : d.Sublist b) :
    d.length ≤ commonLength a b := by
  fun_induction commonLength a b generalizing d with
  | case1 b => simp [List.sublist_nil.mp hleft]
  | case2 x a => simp [List.sublist_nil.mp hright]
  | case3 x a b ih =>
      have hrest := ih hleft.tail hright.tail
      rw [List.length_tail] at hrest
      omega
  | case4 x a y b hne ihleft ihright =>
      cases hleft with
      | cons _ hleft => exact (ihleft hleft hright).trans (Nat.le_max_left _ _)
      | cons_cons _ hleft =>
          cases hright with
          | cons _ hright => exact (ihright (hleft.cons_cons x) hright).trans (Nat.le_max_right _ _)
          | cons_cons => exact absurd rfl hne

/-- The line that a step keeps. -/
def Step.kept? : Step → Option String
  | keep line => some line
  | _ => none

namespace Script

/-- The lines that a script keeps. -/
def kept (script : Script) : List String := script.filterMap Step.kept?

/-- The number of lines that a script removes or adds. -/
def cost (script : Script) : Nat := script.countP Step.isChange

@[simp] theorem kept_append (s t : Script) : kept (s ++ t) = kept s ++ kept t := by
  simp [kept]

@[simp] theorem kept_map_keep (a : List String) : kept (a.map .keep) = a := by
  simp [kept, List.filterMap_map, Function.comp_def, Step.kept?]

@[simp] theorem kept_keep (x : String) (s : Script) : kept (.keep x :: s) = x :: kept s := rfl

@[simp] theorem kept_remove (x : String) (s : Script) : kept (.remove x :: s) = kept s := rfl

@[simp] theorem kept_add (x : String) (s : Script) : kept (.add x :: s) = kept s := rfl

theorem kept_sublist_before (script : Script) : script.kept.Sublist script.before := by
  induction script with
  | nil => exact .slnil
  | cons step script ih =>
      cases step with
      | keep line => exact ih.cons_cons line
      | remove line => exact ih.cons line
      | add line => exact ih

theorem kept_sublist_after (script : Script) : script.kept.Sublist script.after := by
  induction script with
  | nil => exact .slnil
  | cons step script ih =>
      cases step with
      | keep line => exact ih.cons_cons line
      | remove line => exact ih
      | add line => exact ih.cons line

/-- Each line of the two lists is changed, or it is kept together with one of the other list. -/
theorem cost_add_kept (script : Script) :
    script.cost + 2 * script.kept.length = script.before.length + script.after.length := by
  induction script with
  | nil => rfl
  | cons step script ih =>
      unfold cost at ih ⊢
      cases step <;> simp [Step.isChange, List.countP_cons] <;> omega

section Table

/-- The cells that a table has for the ends of two lists. -/
def cells (a b : List String) : List (List Nat) :=
  a.tails.map fun s => b.tails.map fun t => commonLength s t

theorem cells_cons_left (x : String) (a b : List String) :
    cells (x :: a) b = b.tails.map (commonLength (x :: a) ·) :: cells a b := rfl

theorem map_tail_cells (a : List String) (y : String) (b : List String) :
    (cells a (y :: b)).map List.tail = cells a b := by
  rw [cells, List.map_map]
  rfl

theorem headD_map_tails (f : List String → Nat) (b : List String) :
    (b.tails.map f).headD 0 = f b := by
  cases b <;> rfl

theorem headD_cells (a b : List String) :
    (cells a b).headD [] = b.tails.map (commonLength a ·) := by
  cases a <;> rfl

theorem rowAbove_cons (x y : String) (b : List String) (here diagonal : Nat) (later : List Nat) :
    rowAbove x (y :: b) (here :: diagonal :: later) =
      (if x = y then diagonal + 1
        else max here ((rowAbove x b (diagonal :: later)).headD 0)) ::
          rowAbove x b (diagonal :: later) := rfl

/-- A row follows from the one below it by the recurrence of common subsequences. -/
theorem rowAbove_eq (x : String) (a b : List String) :
    rowAbove x b (b.tails.map (commonLength a ·)) = b.tails.map (commonLength (x :: a) ·) := by
  induction b with
  | nil => simp [rowAbove]
  | cons y b ih =>
      obtain ⟨later, hlater⟩ : ∃ later, b.tails.map (commonLength a ·) =
          commonLength a b :: later := by
        cases b <;> exact ⟨_, rfl⟩
      rw [List.tails, List.map_cons, List.map_cons, hlater, rowAbove_cons, ← hlater, ih,
        headD_map_tails, commonLength.eq_3]

/-- **What the table says.** Each cell holds the length of a longest common subsequence of two ends
of the lists. -/
theorem table_eq (a b : List String) : table a b = cells a b := by
  induction a with
  | nil => simp [table, cells]
  | cons x a ih =>
      have hrow : table (x :: a) b = rowAbove x b ((table a b).headD []) :: table a b := rfl
      rw [hrow, ih, headD_cells, rowAbove_eq, cells_cons_left]

end Table

section Follow

theorem followLine_cons (x y : String) (next : List String → List (List Nat) → Script)
    (b : List String) (here below : List Nat) (rows : List (List Nat)) :
    followLine x next (y :: b) (here :: below :: rows) =
      if x = y then .keep x :: next b ((below :: rows).map List.tail)
      else if here.tail.headD 0 ≤ below.headD 0 then .remove x :: next (y :: b) (below :: rows)
      else .add y :: followLine x next b ((here :: below :: rows).map List.tail) := rfl

/-- Following the cells for one line of the first list keeps as many lines as there can be, if what
comes after that line does. -/
theorem length_kept_followLine (x : String) {a : List String}
    {next : List String → List (List Nat) → Script}
    (hnext : ∀ b, (kept (next b (cells a b))).length = commonLength a b)
    (hnone : ∀ rows, kept (next [] rows) = []) (b : List String) :
    (kept (followLine x next b (cells (x :: a) b))).length = commonLength (x :: a) b := by
  induction b with
  | nil => simp [followLine, hnone]
  | cons y b ih =>
      obtain ⟨rows, hrows⟩ : ∃ rows, cells a (y :: b) =
          (y :: b).tails.map (commonLength a ·) :: rows := by
        cases a <;> exact ⟨_, rfl⟩
      have hhere : ((y :: b).tails.map (commonLength (x :: a) ·)).tail.headD 0 =
          commonLength (x :: a) b := headD_map_tails _ b
      rw [cells_cons_left, hrows, followLine_cons, hhere, headD_map_tails, ← hrows,
        ← cells_cons_left, map_tail_cells, map_tail_cells, commonLength.eq_3]
      split
      · rw [kept_keep, List.length_cons, hnext]
      · split
        · next hle => rw [kept_remove, hnext, Nat.max_eq_left hle]
        · next hlt => rw [kept_add, ih, Nat.max_eq_right (Nat.le_of_not_le hlt)]

/-- Following the table of two lists keeps as many lines as its first cell says. -/
theorem length_kept_follow (a b : List String) :
    (kept (follow a b (table a b))).length = commonLength a b := by
  rw [table_eq]
  induction a generalizing b with
  | nil => simpa [follow] using (kept_sublist_before (b.map .add)).length_le
  | cons x a ih =>
      refine length_kept_followLine x ih (fun rows => ?_) b
      have hnone := kept_sublist_after (follow a [] rows)
      rw [(before_after_follow a [] rows).2] at hnone
      exact List.sublist_nil.mp hnone

end Follow

/-- The lists that are left between the lines that two lists begin with and those that they end
with. -/
def middles (a b : List String) : List String × List String :=
  let aRest := a.drop (commonStart a b)
  let bRest := b.drop (commonStart a b)
  let stop := commonStart aRest.reverse bRest.reverse
  (aRest.take (aRest.length - stop), bRest.take (bRest.length - stop))

/-- Two lists are their middles between the same lines, and so is the script that of the middles. -/
theorem exists_frame (a b : List String) : ∃ start stop : List String,
    a = start ++ (middles a b).1 ++ stop ∧ b = start ++ (middles a b).2 ++ stop ∧
      ofLines a b =
        start.map .keep ++ ofMiddles (middles a b).1 (middles a b).2 ++ stop.map .keep := by
  have hstop := drop_commonEnd (a.drop (commonStart a b)) (b.drop (commonStart a b))
  refine ⟨a.take (commonStart a b), _, ?_, ?_, rfl⟩
  · rw [middles, List.append_assoc, List.take_append_drop, List.take_append_drop]
  · rw [middles, hstop, take_commonStart, List.append_assoc, List.take_append_drop,
      List.take_append_drop]

/-- Where a table is made, the script between the middles keeps a longest common subsequence. -/
theorem isLongestCommon_kept_ofMiddles {a b : List String} (h : a.length * b.length ≤ maxCells) :
    IsLongestCommon (kept (ofMiddles a b)) a b := by
  have hleft := kept_sublist_before (ofMiddles a b)
  have hright := kept_sublist_after (ofMiddles a b)
  rw [(before_after_ofMiddles a b).1] at hleft
  rw [(before_after_ofMiddles a b).2] at hright
  refine ⟨hleft, hright, fun d hleft hright => ?_⟩
  rw [ofMiddles, if_neg (Nat.not_lt.mpr h), length_kept_follow]
  exact length_le_commonLength hleft hright

/-- **Scripts are shortest.** Where the middles of two lists are small enough for a table, the lines
that their script keeps are a longest common subsequence of the two lists, so that no script from
the one to the other removes and adds fewer lines. -/
theorem isLongestCommon_kept_ofLines {a b : List String}
    (h : (middles a b).1.length * (middles a b).2.length ≤ maxCells) :
    IsLongestCommon (ofLines a b).kept a b ∧
      ∀ script : Script, script.before = a → script.after = b →
        (ofLines a b).cost ≤ script.cost := by
  have hlongest : IsLongestCommon (ofLines a b).kept a b := by
    obtain ⟨start, stop, ha, hb, hscript⟩ := exists_frame a b
    have hmiddles := ((isLongestCommon_kept_ofMiddles h).append_left start).append_right stop
    rw [← ha, ← hb] at hmiddles
    simpa [hscript] using hmiddles
  refine ⟨hlongest, fun script hbefore hafter => ?_⟩
  have hkept := hlongest.longest script.kept (hbefore ▸ script.kept_sublist_before)
    (hafter ▸ script.kept_sublist_after)
  have hown := (ofLines a b).cost_add_kept
  have hother := script.cost_add_kept
  rw [before_ofLines, after_ofLines] at hown
  rw [hbefore, hafter] at hother
  omega

/-- Lines that are moved and repeated, between lines that both lists begin and end with. -/
theorem isLongestCommon_kept_ofLines_moved :
    let a := ["class", "x", "y", "x", "end"]
    let b := ["class", "y", "x", "z", "x", "end"]
    (middles a b).1.length * (middles a b).2.length ≤ maxCells ∧
      (ofLines a b).kept = ["class", "y", "x", "end"] ∧
      ∀ script : Script, script.before = a → script.after = b → 3 ≤ script.cost := by
  intro a b
  have hsmall : (middles a b).1.length * (middles a b).2.length ≤ maxCells := by decide
  have hcost : (ofLines a b).cost = 3 := by decide
  refine ⟨hsmall, by decide, fun script hbefore hafter => ?_⟩
  rw [← hcost]
  exact (isLongestCommon_kept_ofLines hsmall).2 script hbefore hafter

end Script

end CallMigration.Diff
