/-!
# Lists in order

A list is put in order by inserting its items one by one. Items that may stand in either order keep
the order they had.

* `inOrder_perm`: putting in order neither loses nor adds an item;
* `pairwise_inOrder`: every item may stand before all that follow it.
-/

namespace CallMigration

variable {α : Type} (before : α → α → Bool)

/-- Puts an item in front of the first that it may stand before. -/
def insertInOrder (x : α) : List α → List α
  | [] => [x]
  | y :: ys => if before x y then x :: y :: ys else y :: insertInOrder x ys

/-- The items in order, where `before` says which item may stand before which. -/
def inOrder (xs : List α) : List α := xs.foldr (insertInOrder before) []

variable {before}

theorem insertInOrder_perm (x : α) (ys : List α) : (insertInOrder before x ys).Perm (x :: ys) := by
  induction ys with
  | nil => exact .refl _
  | cons y ys ih =>
      simp only [insertInOrder]
      split
      · exact .refl _
      · exact (ih.cons y).trans (.swap x y ys)

/-- Putting in order neither loses nor adds an item. -/
theorem inOrder_perm (xs : List α) : (inOrder before xs).Perm xs := by
  induction xs with
  | nil => exact .refl _
  | cons x xs ih => exact (insertInOrder_perm x _).trans (ih.cons x)

theorem pairwise_insertInOrder (total : ∀ a b, before a b = true ∨ before b a = true)
    (trans : ∀ a b c, before a b = true → before b c = true → before a c = true)
    (x : α) {ys : List α} (h : ys.Pairwise (before · · = true)) :
    (insertInOrder before x ys).Pairwise (before · · = true) := by
  induction ys with
  | nil => simp [insertInOrder]
  | cons y ys ih =>
      rw [List.pairwise_cons] at h
      simp only [insertInOrder]
      split
      · next hxy =>
          refine List.pairwise_cons.mpr ⟨?_, List.pairwise_cons.mpr h⟩
          intro z hz
          rcases List.mem_cons.mp hz with rfl | hz
          · exact hxy
          · exact trans _ _ _ hxy (h.1 z hz)
      · next hxy =>
          refine List.pairwise_cons.mpr ⟨?_, ih h.2⟩
          intro z hz
          rcases List.mem_cons.mp ((insertInOrder_perm x ys).mem_iff.mp hz) with rfl | hz
          · exact (total z y).resolve_left hxy
          · exact h.1 z hz

/-- Every item may stand before all that follow it. -/
theorem pairwise_inOrder (total : ∀ a b, before a b = true ∨ before b a = true)
    (trans : ∀ a b c, before a b = true → before b c = true → before a c = true) (xs : List α) :
    (inOrder before xs).Pairwise (before · · = true) := by
  induction xs with
  | nil => exact .nil
  | cons x xs ih => exact pairwise_insertInOrder total trans x ih

end CallMigration
