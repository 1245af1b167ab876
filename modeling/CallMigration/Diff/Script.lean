/-!
# Line scripts

A script turns one list of lines into another by keeping, removing and adding lines. The lines that
both lists begin with and those that they end with are kept. Between them the script follows a
table of longest common subsequences, unless that table would be too large: then all lines between
are removed and added.

* `Script.before` and `Script.after` read the two lists off a script;
* `before_ofLines` and `after_ofLines`: the script of two lists reads back as those lists.
-/

namespace CallMigration.Diff

/-- One step of a script. -/
inductive Step where
  | keep (line : String)
  | remove (line : String)
  | add (line : String)
deriving DecidableEq, Inhabited

namespace Step

/-- The line of the first list that the step accounts for. -/
def before? : Step → Option String
  | keep line => some line
  | remove line => some line
  | add _ => none

/-- The line of the second list that the step accounts for. -/
def after? : Step → Option String
  | keep line => some line
  | remove _ => none
  | add line => some line

/-- Whether the step changes anything. -/
def isChange : Step → Bool
  | keep _ => false
  | _ => true

end Step

/-- The steps from one list of lines to another. -/
abbrev Script := List Step

namespace Script

/-- The list of lines that a script starts from. -/
def before (script : Script) : List String := script.filterMap Step.before?

/-- The list of lines that a script ends with. -/
def after (script : Script) : List String := script.filterMap Step.after?

/-- How many lines two lists have in common at their beginning. -/
def commonStart : List String → List String → Nat
  | x :: a, y :: b => if x = y then commonStart a b + 1 else 0
  | _, _ => 0

/-- The row of the table for one more line of the first list: for every end of the second list, the
length of a longest common subsequence. The row below belongs to the lines after that one. -/
def rowAbove (line : String) (b : List String) (below : List Nat) : List Nat :=
  (b.zip (below.zip below.tail)).foldr
    (fun (y, here, diagonal) row =>
      (if line = y then diagonal + 1 else max here (row.headD 0)) :: row)
    [0]

/-- The rows of the table for all ends of the first list. -/
def table (a b : List String) : List (List Nat) :=
  a.foldr (fun x rows => rowAbove x b (rows.headD []) :: rows)
    [List.replicate (b.length + 1) 0]

/-- Follows the rows of a table for one line of the first list: an equal line is kept, and where the
lines differ this one is removed unless adding one of the second list leaves a longer common
subsequence. What comes after this line is left to `next`. -/
def followLine (x : String) (next : List String → List (List Nat) → Script) :
    List String → List (List Nat) → Script
  | y :: b, here :: below :: rows =>
      if x = y then .keep x :: next b ((below :: rows).map List.tail)
      else if here.tail.headD 0 ≤ below.headD 0 then .remove x :: next (y :: b) (below :: rows)
      else .add y :: followLine x next b ((here :: below :: rows).map List.tail)
  | b, _ => .remove x :: next b []

/-- Follows a table from its first corner. -/
def follow : List String → List String → List (List Nat) → Script
  | [], b, _ => b.map .add
  | x :: a, b, rows => followLine x (follow a) b rows

/-- The largest product of list lengths for which a table is made. -/
def maxCells : Nat := 4000000

/-- The script between lists with nothing in common at either end. -/
def ofMiddles (a b : List String) : Script :=
  if maxCells < a.length * b.length then a.map .remove ++ b.map .add
  else follow a b (table a b)

/-- The script that turns one list of lines into another. -/
def ofLines (a b : List String) : Script :=
  let start := commonStart a b
  let aRest := a.drop start
  let bRest := b.drop start
  let stop := commonStart aRest.reverse bRest.reverse
  (a.take start).map .keep
    ++ ofMiddles (aRest.take (aRest.length - stop)) (bRest.take (bRest.length - stop))
    ++ (aRest.drop (aRest.length - stop)).map .keep

@[simp] theorem before_append (s t : Script) : before (s ++ t) = before s ++ before t := by
  simp [before]

@[simp] theorem after_append (s t : Script) : after (s ++ t) = after s ++ after t := by
  simp [after]

@[simp] theorem before_map_keep (a : List String) : before (a.map .keep) = a := by
  simp [before, List.filterMap_map, Function.comp_def, Step.before?]

@[simp] theorem after_map_keep (a : List String) : after (a.map .keep) = a := by
  simp [after, List.filterMap_map, Function.comp_def, Step.after?]

@[simp] theorem before_map_remove (a : List String) : before (a.map .remove) = a := by
  simp [before, List.filterMap_map, Function.comp_def, Step.before?]

@[simp] theorem after_map_remove (a : List String) : after (a.map .remove) = [] := by
  simp [after, List.filterMap_map, Function.comp_def, Step.after?]

@[simp] theorem before_map_add (a : List String) : before (a.map .add) = [] := by
  simp [before, List.filterMap_map, Function.comp_def, Step.before?]

@[simp] theorem after_map_add (a : List String) : after (a.map .add) = a := by
  simp [after, List.filterMap_map, Function.comp_def, Step.after?]

@[simp] theorem before_keep (x : String) (s : Script) : before (.keep x :: s) = x :: before s := rfl

@[simp] theorem after_keep (x : String) (s : Script) : after (.keep x :: s) = x :: after s := rfl

@[simp] theorem before_remove (x : String) (s : Script) :
    before (.remove x :: s) = x :: before s := rfl

@[simp] theorem after_remove (x : String) (s : Script) : after (.remove x :: s) = after s := rfl

@[simp] theorem before_add (x : String) (s : Script) : before (.add x :: s) = before s := rfl

@[simp] theorem after_add (x : String) (s : Script) : after (.add x :: s) = x :: after s := rfl

theorem before_after_followLine (x : String) {a : List String}
    {next : List String → List (List Nat) → Script}
    (hnext : ∀ b rows, before (next b rows) = a ∧ after (next b rows) = b)
    (b : List String) (rows : List (List Nat)) :
    before (followLine x next b rows) = x :: a ∧ after (followLine x next b rows) = b := by
  fun_induction followLine x next b rows with
  | case1 b here below rows => simp [hnext]
  | case2 y b here below rows hne hle => simp [hnext]
  | case3 y b here below rows hne hle ih =>
      exact ⟨by rw [before_add, ih.1], by rw [after_add, ih.2]⟩
  | case4 b rows => simp [hnext]

/-- Whatever the table says, following it accounts for both lists. -/
theorem before_after_follow (a b : List String) (rows : List (List Nat)) :
    before (follow a b rows) = a ∧ after (follow a b rows) = b := by
  induction a generalizing b rows with
  | nil => simp [follow]
  | cons x a ih => exact before_after_followLine x ih b rows

theorem before_after_ofMiddles (a b : List String) :
    before (ofMiddles a b) = a ∧ after (ofMiddles a b) = b := by
  unfold ofMiddles
  split
  · simp
  · exact before_after_follow a b _

theorem take_commonStart (a b : List String) :
    a.take (commonStart a b) = b.take (commonStart a b) := by
  fun_induction commonStart a b with
  | case1 => simp_all
  | case2 => simp
  | case3 => simp

/-- Lists that end alike end alike from the place where their common end begins. -/
theorem drop_commonEnd (a b : List String) :
    a.drop (a.length - commonStart a.reverse b.reverse) =
      b.drop (b.length - commonStart a.reverse b.reverse) := by
  have h := take_commonStart a.reverse b.reverse
  rw [List.take_reverse, List.take_reverse] at h
  exact List.reverse_inj.mp h

/-- The script of two lists starts from the first. -/
theorem before_ofLines (a b : List String) : before (ofLines a b) = a := by
  simp only [ofLines, before_append, before_map_keep, (before_after_ofMiddles _ _).1]
  rw [List.append_assoc, List.take_append_drop, List.take_append_drop]

/-- The script of two lists ends with the second. -/
theorem after_ofLines (a b : List String) : after (ofLines a b) = b := by
  simp only [ofLines, after_append, after_map_keep, (before_after_ofMiddles _ _).2]
  rw [drop_commonEnd, List.append_assoc, List.take_append_drop, take_commonStart,
    List.take_append_drop]

end Script

end CallMigration.Diff
