import CallMigration.Edit
import CallMigration.Edit.Selection
import CallMigration.Ordering

/-!
# Batches of edits

A batch is applied to one source text: all edits are checked, overlapping ones are deferred first
come first served, and the accepted ones are made from the end of the text to its beginning, so
that each still finds its range where it was. Of two edits at one offset the longer is made first,
which puts an insertion before the replacement that begins at the same place.
-/

namespace CallMigration

/-- A source after a batch of edits. -/
structure AppliedEdits where
  source : String
  /-- How many edits were made. -/
  applied : Nat
  /-- The edits put off because they overlap one made. -/
  deferred : List Edit
deriving DecidableEq, Inhabited

namespace Edit

/-- The order in which edits are made: later starts first, and of equal starts later ends. -/
def madeBefore (e f : Edit) : Bool :=
  f.range.start < e.range.start ||
    (f.range.start == e.range.start && f.range.stop ≤ e.range.stop)

/-- Checks the edits in order and reports the first that is not valid. -/
def validateAll (source : String) : List Edit → Except EditError Unit
  | [] => .ok ()
  | e :: edits =>
      match e.validate source with
      | .error cause => .error cause
      | .ok () => validateAll source edits

/-- Makes the edits in the order that keeps all ranges in place. -/
def makeAll (source : String) (edits : List Edit) : String :=
  String.ofList
    ((inOrder madeBefore edits).foldl (fun text e => e.replaceIn text) source.toList)

/-- Applies a batch of edits to a source. -/
def applyAll (source : String) (edits : List Edit) : Except EditError AppliedEdits :=
  match validateAll source edits with
  | .error cause => .error cause
  | .ok () =>
      let selection := Selection.firstCome overlaps edits
      .ok {
        source := makeAll source selection.accepted
        applied := selection.accepted.length
        deferred := selection.deferred }

/-- The source with a single edit made. -/
def apply (source : String) (e : Edit) : Except EditError String :=
  match applyAll source [e] with
  | .error cause => .error cause
  | .ok result => .ok result.source

/-- A batch fails exactly when the check of its edits does, and with the same cause. -/
theorem applyAll_eq_error_iff {source : String} {edits : List Edit} {cause : EditError} :
    applyAll source edits = .error cause ↔ validateAll source edits = .error cause := by
  unfold applyAll
  split <;> simp_all

end Edit

end CallMigration
