/-!
# Byte offsets

Places in a text are counted in UTF-8 bytes. An offset is usable only where a character begins or
the text ends; splitting at an offset succeeds exactly there (`splitAtByte?_eq_some_iff`).
-/

namespace CallMigration.Text

/-- The number of bytes of a text in UTF-8. -/
def byteLength : List Char → Nat
  | [] => 0
  | c :: cs => c.utf8Size + byteLength cs

@[simp] theorem byteLength_nil : byteLength [] = 0 := rfl

@[simp] theorem byteLength_cons (c : Char) (cs : List Char) :
    byteLength (c :: cs) = c.utf8Size + byteLength cs := rfl

@[simp] theorem byteLength_append (a b : List Char) :
    byteLength (a ++ b) = byteLength a + byteLength b := by
  induction a with
  | nil => simp
  | cons c a ih => rw [List.cons_append, byteLength_cons, byteLength_cons, ih, Nat.add_assoc]

/-- The length in bytes is the size that strings report. -/
theorem byteLength_toList (s : String) : byteLength s.toList = s.utf8ByteSize := by
  have key : ∀ cs : List Char, (String.ofList cs).utf8ByteSize = byteLength cs := by
    intro cs
    induction cs with
    | nil => simp
    | cons c cs ih =>
        rw [show c :: cs = [c] ++ cs from rfl, String.ofList_append, String.utf8ByteSize_append,
          ih]
        simp
  rw [← key, String.ofList_toList]

/-- Moves characters from the rest to the reversed beginning until `n` bytes are used up. -/
def splitAfter (before : List Char) : List Char → Nat → Option (List Char × List Char)
  | rest, 0 => some (before.reverse, rest)
  | [], _ + 1 => none
  | c :: rest, n + 1 =>
      if c.utf8Size ≤ n + 1 then splitAfter (c :: before) rest (n + 1 - c.utf8Size) else none

/-- The text before and the text after a byte offset, if that offset is a character boundary. -/
def splitAtByte? (cs : List Char) (offset : Nat) : Option (List Char × List Char) :=
  splitAfter [] cs offset

theorem splitAfter_eq_some_iff {before rest a b : List Char} {n : Nat} :
    splitAfter before rest n = some (a, b) ↔
      ∃ m, a = before.reverse ++ m ∧ rest = m ++ b ∧ byteLength m = n := by
  induction rest generalizing before n with
  | nil =>
      cases n with
      | zero =>
          simp only [splitAfter, Option.some.injEq, Prod.mk.injEq]
          constructor
          · rintro ⟨rfl, rfl⟩
            exact ⟨[], by simp⟩
          · rintro ⟨m, rfl, hm, -⟩
            have := List.nil_eq_append_iff.mp hm
            simp [this.1, this.2]
      | succ n =>
          simp only [splitAfter, reduceCtorEq, false_iff]
          rintro ⟨m, -, hm, hn⟩
          simp [(List.nil_eq_append_iff.mp hm).1] at hn
  | cons c rest ih =>
      have hpos := c.utf8Size_pos
      cases n with
      | zero =>
          simp only [splitAfter, Option.some.injEq, Prod.mk.injEq]
          constructor
          · rintro ⟨rfl, rfl⟩
            exact ⟨[], by simp⟩
          · rintro ⟨m, rfl, hm, hn⟩
            cases m with
            | nil => simpa using hm
            | cons d m => simp at hn; have := d.utf8Size_pos; omega
      | succ n =>
          simp only [splitAfter]
          split
          · rw [ih]
            constructor
            · rintro ⟨m, rfl, rfl, hm⟩
              exact ⟨c :: m, by simp, by simp, by simp; omega⟩
            · rintro ⟨m, rfl, hm, hn⟩
              cases m with
              | nil => simp at hn
              | cons d m =>
                  obtain ⟨rfl, rfl⟩ : c = d ∧ rest = m ++ b := by simpa using hm
                  exact ⟨m, by simp, rfl, by simp at hn; omega⟩
          · next hbig =>
              simp only [reduceCtorEq, false_iff]
              rintro ⟨m, -, hm, hn⟩
              cases m with
              | nil => simp at hn
              | cons d m =>
                  obtain ⟨rfl, -⟩ : c = d ∧ rest = m ++ b := by simpa using hm
                  simp at hn
                  omega

/-- Splitting at an offset cuts the text into two parts, the first of that many bytes. -/
theorem splitAtByte?_eq_some_iff {cs a b : List Char} {n : Nat} :
    splitAtByte? cs n = some (a, b) ↔ cs = a ++ b ∧ byteLength a = n := by
  simp [splitAtByte?, splitAfter_eq_some_iff]

/-- Whether a character begins at a byte offset or the text ends there. -/
def isBoundary (cs : List Char) (offset : Nat) : Bool := (splitAtByte? cs offset).isSome

end CallMigration.Text
