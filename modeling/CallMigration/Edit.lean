import CallMigration.TextRange

/-!
# Text edits

An edit replaces a range of a source text. It is valid when its range names a piece of that text,
which is checked in a fixed order: direction, bounds, character boundaries.

Two insertions overlap when they are at the same place; otherwise two edits overlap when each
begins before the other ends, so that edits that only touch do not overlap.
-/

namespace CallMigration

/-- The replacement of a range of source text. -/
structure Edit where
  range : TextRange
  text : String
deriving DecidableEq, Inhabited

/-- Why an edit cannot be made. -/
inductive EditError where
  /-- The range runs backwards. -/
  | reversed (range : TextRange)
  /-- The range ends after the source does. -/
  | outOfBounds (range : TextRange) (sourceSize : Nat)
  /-- An end of the range lies inside a character. -/
  | offBoundary (range : TextRange)
deriving DecidableEq

/-- The wording of an edit error. -/
def EditError.message : EditError → String
  | .reversed r => s!"Edit start {r.start} is after edit end {r.stop}"
  | .outOfBounds r size => s!"Edit range [{r.start}..{r.stop}) exceeds source length {size}"
  | .offBoundary r =>
      s!"Edit range [{r.start}..{r.stop}) does not fall on character boundaries"

namespace Edit

/-- The edit that puts a text in at an offset. -/
def insertion (offset : Nat) (text : String) : Edit := ⟨⟨offset, offset⟩, text⟩

/-- The edit that takes a range out. -/
def deletion (range : TextRange) : Edit := ⟨range, ""⟩

/-- Whether the edit only inserts: its range starts where it stops. -/
def isInsertion (e : Edit) : Bool := e.range.start == e.range.stop

/-- Whether two edits claim the same place. -/
def overlaps (e f : Edit) : Bool :=
  if e.isInsertion && f.isInsertion then e.range.start == f.range.start
  else e.range.start < f.range.stop && f.range.start < e.range.stop

/-- Checks that the edit's range names a piece of the source. -/
def validate (source : String) (e : Edit) : Except EditError Unit :=
  if e.range.stop < e.range.start then .error (.reversed e.range)
  else if source.utf8ByteSize < e.range.stop then
    .error (.outOfBounds e.range source.utf8ByteSize)
  else if Text.isBoundary source.toList e.range.start
      && Text.isBoundary source.toList e.range.stop then .ok ()
  else .error (.offBoundary e.range)

/-- The text with the edit's range replaced; a text that the range does not fit is left alone. -/
def replaceIn (e : Edit) (text : List Char) : List Char :=
  match e.range.cut? text with
  | some (before, _, after) => before ++ e.text.toList ++ after
  | none => text

/-- Overlapping is symmetric. -/
theorem overlaps_comm (e f : Edit) : e.overlaps f = f.overlaps e := by
  unfold overlaps
  rw [Bool.and_comm f.isInsertion, Bool.and_comm (decide (f.range.start < e.range.stop))]
  split
  · exact BEq.comm
  · rfl

end Edit

end CallMigration
