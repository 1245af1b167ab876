import CallMigration.Text.Bytes

/-!
# Ranges of source text

A range is a pair of byte offsets, the second exclusive. Nothing ties a range to a text until it is
used: `cut?` succeeds exactly on the ranges that name a piece of the text
(`TextRange.cut?_eq_some_iff`).
-/

namespace CallMigration

/-- A range of byte offsets, from `start` up to but not including `stop`. -/
structure TextRange where
  start : Nat
  stop : Nat
deriving DecidableEq, Inhabited

namespace TextRange

/-- The number of bytes in the range; a range that runs backwards has none. -/
def size (r : TextRange) : Nat := r.stop - r.start

/-- Whether the range holds no byte. -/
def isEmpty (r : TextRange) : Bool := r.size == 0

/-- Whether a range lies between the two ends of another one. -/
def contains (outer inner : TextRange) : Bool :=
  outer.start ≤ inner.start && inner.stop ≤ outer.stop

theorem contains_iff {outer inner : TextRange} :
    outer.contains inner = true ↔ outer.start ≤ inner.start ∧ inner.stop ≤ outer.stop := by
  rw [contains, Bool.and_eq_true, decide_eq_true_eq, decide_eq_true_eq]

/-- Ranges that lie in each other are the same. -/
theorem contains_antisymm {r s : TextRange} (h : r.contains s = true) (h' : s.contains r = true) :
    r = s := by
  cases r
  cases s
  simp only [contains_iff, mk.injEq] at h h' ⊢
  omega

/-- The text before the range, in it and after it, if the range names a piece of the text. -/
def cut? (r : TextRange) (text : List Char) : Option (List Char × List Char × List Char) :=
  if r.start ≤ r.stop then
    match Text.splitAtByte? text r.start with
    | none => none
    | some (before, rest) =>
        match Text.splitAtByte? rest r.size with
        | none => none
        | some (inside, after) => some (before, inside, after)
  else none

/-- A range cuts a text into three pieces whose lengths are the range's own. -/
theorem cut?_eq_some_iff {r : TextRange} {text a m b : List Char} :
    r.cut? text = some (a, m, b) ↔
      text = a ++ m ++ b ∧ Text.byteLength a = r.start ∧
        Text.byteLength (a ++ m) = r.stop := by
  unfold cut? size
  constructor
  · intro h
    split at h
    · next hle =>
        split at h
        · cases h
        · next before rest hfirst =>
            split at h
            · cases h
            · next inside after hsecond =>
                obtain ⟨rfl, rfl, rfl⟩ : before = a ∧ inside = m ∧ after = b := by simpa using h
                obtain ⟨rfl, ha⟩ := Text.splitAtByte?_eq_some_iff.mp hfirst
                obtain ⟨rfl, hm⟩ := Text.splitAtByte?_eq_some_iff.mp hsecond
                exact ⟨by simp, ha, by simp; omega⟩
    · cases h
  · rintro ⟨rfl, ha, hm⟩
    rw [Text.byteLength_append] at hm
    rw [if_pos (by omega),
      Text.splitAtByte?_eq_some_iff.mpr (show _ = a ++ (m ++ b) ∧ _ from ⟨by simp, ha⟩)]
    simp only
    rw [Text.splitAtByte?_eq_some_iff.mpr (show _ = m ++ b ∧ _ from ⟨rfl, by omega⟩)]

/-- The piece of a text that the range names, if it names one. -/
def slice? (r : TextRange) (source : String) : Option String :=
  (r.cut? source.toList).map fun (_, inside, _) => String.ofList inside

/-- The range as error messages show it. -/
def describe (r : TextRange) : String :=
  "TextRange \x7b start: " ++ toString r.start ++ ", end: " ++ toString r.stop ++ " \x7d"

end TextRange

end CallMigration
