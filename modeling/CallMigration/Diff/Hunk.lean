import CallMigration.Diff.Script

/-!
# Hunks

A hunk is a stretch of a script that is printed: the changes in it and the steps within a given
distance of them. Stretches that touch or overlap become one hunk.
-/

namespace CallMigration.Diff

/-- The positions of the changes in a script. -/
def Script.changes (script : Script) : List Nat :=
  script.zipIdx.filterMap fun (step, i) => if step.isChange then some i else none

/-- A stretch of a script, from `start` up to but not including `stop`. -/
structure Hunk where
  start : Nat
  stop : Nat
deriving DecidableEq, Inhabited

namespace Hunk

/-- How many positions there are; counting on from the last one begins again at zero. -/
def positions : Nat := UInt64.size

/-- The stretch around one change, clipped to a script of the given size. -/
def around (context size change : Nat) : Hunk :=
  ⟨change - context, min ((change + context + 1) % positions) size⟩

/-- Extends a hunk over the changes that follow it, and begins a new one where there is a gap. -/
def extend (context size : Nat) (hunk : Hunk) : List Nat → List Hunk
  | [] => [hunk]
  | change :: changes =>
      let next := around context size change
      if next.start ≤ hunk.stop then extend context size ⟨hunk.start, next.stop⟩ changes
      else hunk :: extend context size next changes

/-- The hunks around the given changes. -/
def ofChanges (context size : Nat) : List Nat → List Hunk
  | [] => []
  | change :: changes => extend context size (around context size change) changes

/-- The hunks of a script. -/
def ofScript (context : Nat) (script : Script) : List Hunk :=
  ofChanges context script.length script.changes

/-- The steps of a script that a hunk shows. -/
def steps (hunk : Hunk) (script : Script) : Script :=
  (script.drop hunk.start).take (hunk.stop - hunk.start)

end Hunk

end CallMigration.Diff
