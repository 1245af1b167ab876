/-!
# Ranges of code points

A character property is stored as the list of its ranges of code points in increasing order, and
membership walks that list until the ranges pass the code point.
-/

namespace CallMigration.Text

/-- The first and the last code point of a range. -/
abbrev CodeRange := Nat × Nat

/-- Whether a code point lies in one of the ranges, which are listed in increasing order. -/
def CodeRange.anyContains : List CodeRange → Nat → Bool
  | [], _ => false
  | (first, last) :: ranges, code =>
      if code < first then false
      else if code ≤ last then true
      else anyContains ranges code

/-- A code point that is found lies in one of the listed ranges. -/
theorem CodeRange.exists_mem_of_anyContains {ranges : List CodeRange} {code : Nat}
    (h : anyContains ranges code = true) :
    ∃ r ∈ ranges, r.1 ≤ code ∧ code ≤ r.2 := by
  induction ranges with
  | nil => simp [anyContains] at h
  | cons r ranges ih =>
      obtain ⟨first, last⟩ := r
      unfold anyContains at h
      split at h
      · cases h
      · next hlow =>
          split at h
          · next hhigh => exact ⟨(first, last), by simp, by omega, hhigh⟩
          · obtain ⟨r, hr, hb⟩ := ih h
            exact ⟨r, List.mem_cons_of_mem _ hr, hb⟩

end CallMigration.Text
