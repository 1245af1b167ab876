import CallMigration.Edit.Batch

/-!
# Valid edits

The check of an edit succeeds exactly when its range cuts the source into a beginning, a middle and
an end, so that a valid edit can be made (`Edit.validate_eq_ok_iff`). The check of a batch succeeds
exactly when it does for each of its edits (`Edit.validateAll_eq_ok_iff`).
-/

namespace CallMigration

namespace Text

/-- A boundary is the end of some beginning of the text. -/
theorem isBoundary_iff {cs : List Char} {n : Nat} :
    isBoundary cs n = true ↔ ∃ a b, cs = a ++ b ∧ byteLength a = n := by
  simp [isBoundary, Option.isSome_iff_exists, splitAtByte?_eq_some_iff]

theorem le_byteLength_of_isBoundary {cs : List Char} {n : Nat} (h : isBoundary cs n = true) :
    n ≤ byteLength cs := by
  obtain ⟨a, b, rfl, rfl⟩ := isBoundary_iff.mp h
  rw [byteLength_append]
  exact Nat.le_add_right _ _

theorem byteLength_eq_zero_iff {cs : List Char} : byteLength cs = 0 ↔ cs = [] := by
  cases cs with
  | nil => simp
  | cons c cs =>
      have := c.utf8Size_pos
      simp only [byteLength_cons, reduceCtorEq, iff_false]
      omega

/-- Of two beginnings of one text, the one with fewer bytes begins the other. -/
theorem exists_between {a b a' b' : List Char} (h : a ++ b = a' ++ b')
    (hle : byteLength a ≤ byteLength a') : ∃ m, a' = a ++ m ∧ b = m ++ b' := by
  rcases List.append_eq_append_iff.mp h with ⟨m, ha, hb⟩ | ⟨m, ha, hb⟩
  · exact ⟨m, ha, hb⟩
  · have hm : m = [] := by
      rw [ha, byteLength_append] at hle
      exact byteLength_eq_zero_iff.mp (by omega)
    exact ⟨[], by simp [ha, hm], by simp [hb, hm]⟩

/-- Two beginnings of one text with as many bytes are the same. -/
theorem append_inj_of_byteLength {a b a' b' : List Char} (h : a ++ b = a' ++ b')
    (heq : byteLength a = byteLength a') : a = a' ∧ b = b' := by
  obtain ⟨m, rfl, rfl⟩ := exists_between h (Nat.le_of_eq heq)
  have hm : m = [] := by
    rw [byteLength_append] at heq
    exact byteLength_eq_zero_iff.mp (by omega)
  simp [hm]

end Text

namespace TextRange

variable {r : TextRange} {text a m b : List Char}

/-- The pieces that a range cuts off are as long as the range says. -/
theorem byteLength_of_cut? (h : r.cut? text = some (a, m, b)) :
    Text.byteLength a = r.start ∧ Text.byteLength m = r.size ∧ r.start ≤ r.stop := by
  obtain ⟨-, ha, hm⟩ := cut?_eq_some_iff.mp h
  rw [Text.byteLength_append] at hm
  refine ⟨ha, ?_, ?_⟩
  · unfold size
    omega
  · omega

/-- A range cuts a text exactly if it runs forward from one boundary to another. -/
theorem exists_cut?_iff :
    (∃ a m b, r.cut? text = some (a, m, b)) ↔
      r.start ≤ r.stop ∧ Text.isBoundary text r.start = true ∧
        Text.isBoundary text r.stop = true := by
  rw [Text.isBoundary_iff, Text.isBoundary_iff]
  constructor
  · rintro ⟨a, m, b, hcut⟩
    obtain ⟨htext, ha, hm⟩ := cut?_eq_some_iff.mp hcut
    exact ⟨(byteLength_of_cut? hcut).2.2, ⟨a, m ++ b, by simp [htext], ha⟩, ⟨a ++ m, b, htext, hm⟩⟩
  · rintro ⟨hforward, ⟨a, rest, htext, ha⟩, ⟨before, b, htext', hb⟩⟩
    obtain ⟨m, rfl, -⟩ := Text.exists_between (htext.symm.trans htext') (by omega)
    exact ⟨a, m, b, cut?_eq_some_iff.mpr ⟨htext', ha, hb⟩⟩

/-- A range names a piece of a text exactly if it cuts the text. -/
theorem slice?_eq_some_iff {source piece : String} :
    r.slice? source = some piece ↔ ∃ a b, r.cut? source.toList = some (a, piece.toList, b) := by
  unfold slice?
  constructor
  · intro h
    obtain ⟨⟨a, m, b⟩, hcut, rfl⟩ := Option.map_eq_some_iff.mp h
    exact ⟨a, b, by rw [String.toList_ofList]; exact hcut⟩
  · rintro ⟨a, b, hcut⟩
    simp [hcut]

/-- What follows a range up to the end of a wider one is cut off together with all before it. -/
theorem cut?_following {inner : TextRange} {a' m' b' : List Char}
    (houter : r.cut? text = some (a, m, b)) (hinner : inner.cut? text = some (a', m', b'))
    (hwithin : inner.stop ≤ r.stop) :
    ∃ rest, a ++ m = a' ++ m' ++ rest ∧
      (⟨inner.stop, r.stop⟩ : TextRange).cut? text = some (a' ++ m', rest, b) := by
  obtain ⟨htext, -, hstop⟩ := cut?_eq_some_iff.mp houter
  obtain ⟨htext', -, hstop'⟩ := cut?_eq_some_iff.mp hinner
  obtain ⟨rest, hparts, -⟩ := Text.exists_between (htext'.symm.trans htext) (by omega)
  refine ⟨rest, hparts, cut?_eq_some_iff.mpr ⟨?_, hstop', ?_⟩⟩
  · rw [← hparts, htext]
  · rw [← hparts, hstop]

end TextRange

namespace Edit

/-- **Valid edits can be made.** The check of an edit succeeds exactly when its range cuts the
source into three pieces. -/
theorem validate_eq_ok_iff {source : String} {e : Edit} :
    e.validate source = .ok () ↔ ∃ a m b, e.range.cut? source.toList = some (a, m, b) := by
  rw [TextRange.exists_cut?_iff]
  unfold validate
  constructor
  · intro h
    split at h
    · cases h
    · next hforward =>
        split at h
        · cases h
        · split at h
          · next hboundary =>
              rw [Bool.and_eq_true] at hboundary
              exact ⟨Nat.le_of_not_lt hforward, hboundary⟩
          · cases h
  · rintro ⟨hforward, hstart, hstop⟩
    have hbounds := Text.le_byteLength_of_isBoundary hstop
    rw [Text.byteLength_toList] at hbounds
    rw [if_neg (by omega), if_neg (by omega), if_pos (Bool.and_eq_true_iff.mpr ⟨hstart, hstop⟩)]

theorem validate_eq_ok_iff_slice? {source : String} {e : Edit} :
    e.validate source = .ok () ↔ (e.range.slice? source).isSome = true := by
  rw [validate_eq_ok_iff, TextRange.slice?, Option.isSome_map, Option.isSome_iff_exists]
  simp

/-- What is wrong with a range that does not run backwards but is none of a source. -/
def misfit (source : String) (range : TextRange) : EditError :=
  if source.utf8ByteSize < range.stop then .outOfBounds range source.utf8ByteSize
  else .offBoundary range

theorem validate_eq_misfit {source : String} {e : Edit} (hforward : e.range.start ≤ e.range.stop)
    (hslice : e.range.slice? source = none) : e.validate source = .error (misfit source e.range) := by
  have hinvalid : e.validate source ≠ .ok () := by
    rw [ne_eq, validate_eq_ok_iff_slice?, hslice]
    simp
  unfold validate at hinvalid ⊢
  rw [if_neg (by omega)] at hinvalid ⊢
  unfold misfit
  split
  · rfl
  · next hbounds =>
      rw [if_neg hbounds] at hinvalid
      split at hinvalid
      · exact absurd rfl hinvalid
      · next hboundary => rw [if_neg hboundary]

/-- A single valid edit is made in the place of its range. -/
theorem apply_of_cut? {source : String} {e : Edit} {a m b : List Char}
    (h : e.range.cut? source.toList = some (a, m, b)) :
    e.apply source = .ok (String.ofList (a ++ e.text.toList ++ b)) := by
  have hvalid : e.validate source = .ok () := validate_eq_ok_iff.mpr ⟨a, m, b, h⟩
  have hmade : makeAll source [e] = String.ofList (a ++ e.text.toList ++ b) := by
    simp [makeAll, inOrder, insertInOrder, replaceIn, h]
  simp [apply, applyAll, validateAll, hvalid, Selection.firstCome, Selection.serve, hmade]

theorem start_le_stop_of_validate {source : String} {e : Edit} (h : e.validate source = .ok ()) :
    e.range.start ≤ e.range.stop := by
  obtain ⟨a, m, b, hcut⟩ := validate_eq_ok_iff.mp h
  exact (TextRange.byteLength_of_cut? hcut).2.2

/-- Edits overlap when each begins before the other ends, and when both insert at one place. -/
theorem overlaps_iff {e f : Edit} :
    e.overlaps f = true ↔
      (e.range.start < f.range.stop ∧ f.range.start < e.range.stop) ∨
        (e.range.start = e.range.stop ∧ f.range.start = e.range.start ∧
          f.range.stop = e.range.stop) := by
  unfold overlaps
  split
  · next hins =>
      simp only [isInsertion, Bool.and_eq_true, beq_iff_eq] at hins
      simp only [beq_iff_eq]
      omega
  · next hins =>
      simp only [isInsertion, Bool.and_eq_true, beq_iff_eq] at hins
      simp only [Bool.and_eq_true, decide_eq_true_eq]
      omega

/-- An edit of a range that is not reversed overlaps itself. -/
theorem overlaps_self {e : Edit} (h : e.range.start ≤ e.range.stop) : e.overlaps e = true := by
  rw [overlaps_iff]
  omega

/-- A batch passes its check exactly when each of its edits does. -/
theorem validateAll_eq_ok_iff {source : String} {edits : List Edit} :
    validateAll source edits = .ok () ↔ ∀ e ∈ edits, e.validate source = .ok () := by
  induction edits with
  | nil => simp [validateAll]
  | cons e edits ih =>
      unfold validateAll
      split
      · next cause hcause => simp [hcause]
      · next hok => simp [hok, ih]

/-- The check of a batch reports the first edit that is not valid. -/
theorem validateAll_eq_error_iff {source : String} {edits : List Edit} {cause : EditError} :
    validateAll source edits = .error cause ↔
      ∃ before e after, edits = before ++ e :: after ∧
        (∀ f ∈ before, f.validate source = .ok ()) ∧ e.validate source = .error cause := by
  induction edits with
  | nil => simp [validateAll]
  | cons e edits ih =>
      unfold validateAll
      constructor
      · intro h
        split at h
        · next other hother =>
            exact ⟨[], e, edits, rfl, by simp, hother.trans (congrArg _ (Except.error.inj h))⟩
        · next hok =>
            obtain ⟨before, f, after, rfl, hbefore, hf⟩ := ih.mp h
            exact ⟨e :: before, f, after, rfl, List.forall_mem_cons.mpr ⟨hok, hbefore⟩, hf⟩
      · rintro ⟨before, f, after, hsplit, hbefore, hf⟩
        cases before with
        | nil =>
            obtain ⟨rfl, rfl⟩ := List.cons.inj hsplit
            rw [hf]
        | cons first before =>
            obtain ⟨rfl, rfl⟩ := List.cons.inj hsplit
            obtain ⟨hfirst, hbefore⟩ := List.forall_mem_cons.mp hbefore
            rw [hfirst]
            exact ih.mpr ⟨before, f, after, rfl, hbefore, hf⟩

end Edit

end CallMigration
