import CallMigration.Position
import CallMigration.Proofs.Edit.Validity
import Mathlib.Data.List.DropRight
import Mathlib.Data.Prod.Lex
import Mathlib.Order.Nat

/-!
# Positions identify offsets

The position of a character boundary counts the line feeds in front of it and the characters since
the last of them. Each further character leads on in reading order, so that no two boundaries share
a position. An offset that is no boundary has the position of the boundary that comes next, and one
behind the end has that of the end.

* `Position.lt_advance`, `Position.lt_foldl_advance`: a character, and a text, lead on;
* `Position.walk_append`: walking to a boundary reads the text in front of it and nothing else;
* `Span.exists_locates`: the positions of spans identify offsets.
-/

namespace CallMigration

namespace Text

/-- The offsets where a character of a source begins or the source ends. -/
def boundaries (source : String) : Set Nat := {n | isBoundary source.toList n = true}

variable {source : String} {n : Nat}

theorem mem_boundaries :
    n ∈ boundaries source ↔ ∃ a b, source.toList = a ++ b ∧ byteLength a = n :=
  isBoundary_iff

theorem utf8ByteSize_mem_boundaries : source.utf8ByteSize ∈ boundaries source :=
  mem_boundaries.mpr ⟨source.toList, [], by simp, byteLength_toList source⟩

/-- Every offset up to the end has a first boundary at or behind it. -/
theorem exists_isLeast_boundary (h : n ≤ source.utf8ByteSize) :
    ∃ m, IsLeast {m ∈ boundaries source | n ≤ m} m := by
  classical
  have hsome : {m ∈ boundaries source | n ≤ m}.Nonempty := ⟨_, utf8ByteSize_mem_boundaries, h⟩
  exact ⟨_, hsome.isLeast_natFind⟩

end Text

namespace Position

/-- Positions are in reading order: by rows, and in one row by columns. -/
instance : PartialOrder Position :=
  PartialOrder.lift (fun p => toLex (p.row, p.column)) (by
    rintro ⟨row, column⟩ ⟨row', column'⟩ h
    obtain ⟨rfl, rfl⟩ := Prod.mk.inj (toLex.injective h)
    rfl)

theorem lt_iff {p q : Position} : p < q ↔ p.row < q.row ∨ p.row = q.row ∧ p.column < q.column :=
  Prod.Lex.toLex_lt_toLex

section Advance

variable (p : Position) (text : List Char)

/-- One more character leads on. -/
theorem lt_advance (c : Char) : p < p.advance c := by
  rw [lt_iff, advance]
  split
  · exact Or.inl (Nat.lt_succ_self p.row)
  · exact Or.inr ⟨rfl, Nat.lt_succ_self p.column⟩

theorem le_foldl_advance : p ≤ text.foldl advance p := by
  induction text generalizing p with
  | nil => exact le_rfl
  | cons c text ih => exact (lt_advance p c).le.trans (ih (p.advance c))

/-- Some more characters lead on. -/
theorem lt_foldl_advance (h : text ≠ []) : p < text.foldl advance p := by
  cases text with
  | nil => exact absurd rfl h
  | cons c text => exact (lt_advance p c).trans_le (le_foldl_advance (p.advance c) text)

end Advance

/-- The position behind a text. -/
def after (text : List Char) : Position := text.foldl advance ⟨1, 1⟩

theorem after_append (a b : List Char) : after (a ++ b) = b.foldl advance (after a) :=
  List.foldl_append

theorem after_concat (text : List Char) (c : Char) :
    after (text ++ [c]) = (after text).advance c :=
  after_append text [c]

/-- The row counts the line feeds. -/
theorem row_after (text : List Char) : (after text).row = 1 + text.count '\n' := by
  induction text using List.reverseRecOn with
  | nil => rfl
  | append_singleton text c ih =>
      rw [after_concat, advance, List.count_append, List.count_singleton]
      split
      · next hfeed => simp [hfeed, ih, Nat.add_assoc]
      · next hother => simp [hother, ih]

/-- The column counts the characters behind the last line feed. -/
theorem column_after (text : List Char) :
    (after text).column = 1 + (text.rtakeWhile (· != '\n')).length := by
  induction text using List.reverseRecOn with
  | nil => rfl
  | append_singleton text c ih =>
      rw [after_concat, advance]
      split
      · next hfeed =>
          rw [List.rtakeWhile_concat_neg _ _ _ (by simp [hfeed])]
          rfl
      · next hother =>
          rw [List.rtakeWhile_concat_pos _ _ _ (by simp [hother]), List.length_append,
            ← Nat.add_assoc, ← ih]
          rfl

section Walk

variable {p : Position} {a b : List Char} {c : Char} {n : Nat}

theorem walk_zero : walk p a 0 = p := by
  cases a <;> rfl

theorem walk_cons (h : 0 < n) : walk p (c :: a) n = walk (p.advance c) a (n - c.utf8Size) := by
  cases n with
  | zero => cases h
  | succ n => rfl

/-- Walking past a text leads behind it and goes on from there. -/
theorem walk_append : walk p (a ++ b) (Text.byteLength a + n) = walk (a.foldl advance p) b n := by
  induction a generalizing p with
  | nil => simp
  | cons c a ih =>
      have hsize := c.utf8Size_pos
      have hrest : c.utf8Size + Text.byteLength a + n - c.utf8Size = Text.byteLength a + n := by
        omega
      rw [List.cons_append, Text.byteLength_cons, walk_cons (by omega), hrest, ih, List.foldl_cons]

end Walk

section OfOffset

variable {source : String} {a b : List Char} {n m : Nat}

/-- The position of a boundary is the one behind the text in front of it. -/
theorem ofOffset_byteLength (h : source.toList = a ++ b) :
    ofOffset source (Text.byteLength a) = after a := by
  rw [ofOffset, h, ← Nat.add_zero (Text.byteLength a), walk_append, walk_zero, after]

/-- An offset in a character, and the end of it, have the position behind the character. -/
theorem ofOffset_inside {c : Char} (h : source.toList = a ++ c :: b)
    (hinside : Text.byteLength a < n) (hend : n ≤ Text.byteLength a + c.utf8Size) :
    ofOffset source n = after (a ++ [c]) := by
  obtain ⟨k, rfl⟩ := Nat.exists_eq_add_of_lt hinside
  rw [ofOffset, h, Nat.add_assoc, walk_append, walk_cons (Nat.succ_pos k),
    Nat.sub_eq_zero_of_le (by omega), walk_zero, after_concat, after]

/-- An offset has the position of the first boundary at or behind it. -/
theorem ofOffset_eq_of_isLeast (h : IsLeast {m ∈ Text.boundaries source | n ≤ m} m) :
    ofOffset source n = ofOffset source m := by
  obtain ⟨⟨hboundary, hle⟩, hleast⟩ := h
  obtain ⟨a, b, hsource, rfl⟩ := Text.mem_boundaries.mp hboundary
  rcases List.eq_nil_or_concat' a with rfl | ⟨front, c, rfl⟩
  · rw [Nat.le_zero.mp hle]
    rfl
  · have hfront : source.toList = front ++ c :: b := by simp [hsource]
    -- The character that ends at the boundary began in front of the offset.
    have hinside : Text.byteLength front < n := by
      by_contra hbehind
      have hsmaller := hleast ⟨Text.mem_boundaries.mpr ⟨front, c :: b, hfront, rfl⟩,
        Nat.le_of_not_lt hbehind⟩
      have hsize := c.utf8Size_pos
      simp at hsmaller
      omega
    rw [ofOffset_byteLength hsource, ofOffset_inside hfront hinside (by simpa using hle)]

/-- An offset behind the end has the position of the end. -/
theorem ofOffset_past (h : source.utf8ByteSize ≤ n) :
    ofOffset source n = ofOffset source source.utf8ByteSize := by
  have hend : ∀ k, ofOffset source (source.utf8ByteSize + k) = after source.toList := by
    intro k
    have hwalk := @walk_append ⟨1, 1⟩ source.toList [] k
    rwa [List.append_nil, Text.byteLength_toList] at hwalk
  obtain ⟨k, rfl⟩ := Nat.exists_eq_add_of_le h
  rw [hend k, ← hend 0, Nat.add_zero]

/-- Boundaries further on have positions further on. -/
theorem strictMonoOn_ofOffset (source : String) :
    StrictMonoOn (ofOffset source) (Text.boundaries source) := by
  intro m hm n hn hlt
  obtain ⟨a, b, hsource, rfl⟩ := Text.mem_boundaries.mp hm
  obtain ⟨a', b', hsource', rfl⟩ := Text.mem_boundaries.mp hn
  obtain ⟨between, rfl, -⟩ := Text.exists_between (hsource.symm.trans hsource') hlt.le
  have hbetween : between ≠ [] := by
    rintro rfl
    simp at hlt
  rw [ofOffset_byteLength hsource, ofOffset_byteLength hsource', after_append]
  exact lt_foldl_advance (after a) between hbetween

end OfOffset

/-- Whether the positions that are given to the offsets of a source identify them. -/
structure Locates (position : Nat → Position) (source : String) : Prop where
  start : position 0 = ⟨1, 1⟩
  strictMonoOn : StrictMonoOn position (Text.boundaries source)
  injOn : Set.InjOn position (Text.boundaries source)
  row : ∀ before rest, source.toList = before ++ rest →
    (position (Text.byteLength before)).row = 1 + before.count '\n'
  column : ∀ before rest, source.toList = before ++ rest →
    (position (Text.byteLength before)).column = 1 + (before.rtakeWhile (· != '\n')).length
  /-- An offset in a character has the position of the boundary that comes next. -/
  next : ∀ n ≤ source.utf8ByteSize, ∃ m,
    IsLeast {m ∈ Text.boundaries source | n ≤ m} m ∧ position n = position m
  past : ∀ n, source.utf8ByteSize ≤ n → position n = position source.utf8ByteSize

theorem locates_ofOffset (source : String) : Locates (ofOffset source) source where
  start := walk_zero
  strictMonoOn := strictMonoOn_ofOffset source
  injOn := (strictMonoOn_ofOffset source).injOn
  row := fun before rest h => by rw [ofOffset_byteLength h, row_after]
  column := fun before rest h => by rw [ofOffset_byteLength h, column_after]
  next := fun n h =>
    (Text.exists_isLeast_boundary h).imp fun m hm => ⟨hm, ofOffset_eq_of_isLeast hm⟩
  past := fun n h => ofOffset_past h

end Position

/-- **Positions identify offsets.** One map from offsets to positions places the two ends of every
span of a source. It begins with row one and column one and is strictly increasing on the character
boundaries, in reading order, so that no two of them share a position. The row of a boundary is one
more than the number of line feeds in front of it, its column one more than the number of characters
since the last of them. An offset in a character has the position of the next boundary, and one
behind the end that of the end. -/
theorem Span.exists_locates (source : String) :
    ∃ position : Nat → Position, Position.Locates position source ∧
      ∀ range, ofRange source range = ⟨range, position range.start, position range.stop⟩ :=
  ⟨Position.ofOffset source, Position.locates_ofOffset source, fun _ => rfl⟩

/-- A character of two bytes takes one column, and the offset in it has the position behind it. -/
example : [0, 1, 2, 3, 4, 9].map (Position.ofOffset "é\nx") =
    [⟨1, 1⟩, ⟨1, 2⟩, ⟨1, 2⟩, ⟨2, 1⟩, ⟨2, 2⟩, ⟨2, 2⟩] := by
  decide

end CallMigration
