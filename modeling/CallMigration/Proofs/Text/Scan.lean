import CallMigration.Text.Scan

/-!
# Rewriting a text in one pass

A scan that writes something for each match rewrites a text from left to right. Its laws are those
of one step: a character that begins no match is copied (`rewriteFrom_plain`), and a match is
replaced as a whole, after which the scan goes on behind it (`rewriteFrom_found`). A text comes
apart at a place where what is found before it does not depend on what follows
(`rewriteFrom_append`).
-/

namespace CallMigration.Text

/-- What is written for a piece of a scanned text. -/
def Piece.written : Piece (List Char) → List Char
  | .plain c => [c]
  | .found replacement => replacement

/-- The rest of a text rewritten, when `before` is the character to the left of it. -/
def rewriteFrom (find : Matcher (List Char)) (before : Option Char) (text : List Char) :
    List Char :=
  (scanOnto find [] before 0 text).flatMap Piece.written

/-- The last of some characters, or else the one before them. -/
theorem getLast?_cons_or (c : Char) (cs : List Char) (before : Option Char) :
    (c :: cs).getLast?.or before = cs.getLast?.or (some c) := by
  rw [List.getLast?_cons]
  cases cs.getLast? <;> rfl

variable {find : Matcher (List Char)} {before : Option Char}

theorem replaceMatches_eq_rewriteFrom (text : List Char) :
    replaceMatches find text = rewriteFrom find none text := rfl

@[simp] theorem rewriteFrom_nil : rewriteFrom find before [] = [] := rfl

/-- Characters that belong to a match are passed over. -/
theorem scanOnto_skip {α : Type} {find : Matcher α} {pieces : List (Piece α)}
    (taken rest : List Char) :
    scanOnto find pieces before taken.length (taken ++ rest) =
      scanOnto find pieces (taken.getLast?.or before) 0 rest := by
  induction taken generalizing before with
  | nil => simp
  | cons c taken ih =>
      rw [List.length_cons, List.cons_append, scanOnto, ih, getLast?_cons_or]

/-- A character at which nothing is found is copied. -/
theorem rewriteFrom_plain {c : Char} {rest : List Char} (h : find before (c :: rest) = none) :
    rewriteFrom find before (c :: rest) = c :: rewriteFrom find (some c) rest := by
  unfold rewriteFrom
  rw [scanOnto]
  simp only [h]
  rw [scanOnto_eq_append]
  simp [Piece.written]

/-- What is found is replaced as a whole. -/
theorem rewriteFrom_found {taken rest replacement : List Char} (htaken : taken ≠ [])
    (h : find before (taken ++ rest) = some (taken.length, replacement)) :
    rewriteFrom find before (taken ++ rest) =
      replacement ++ rewriteFrom find taken.getLast? rest := by
  cases taken with
  | nil => exact absurd rfl htaken
  | cons c taken =>
      rw [List.cons_append, List.length_cons] at h
      unfold rewriteFrom
      rw [List.cons_append, scanOnto]
      simp only [h]
      rw [scanOnto_eq_append, scanOnto_skip, ← Option.or_none (o := (c :: taken).getLast?),
        getLast?_cons_or]
      simp [Piece.written]

/-- A stretch of text in which nothing is found is copied. -/
theorem rewriteFrom_copy {copied rest : List Char}
    (h : ∀ a c b, copied = a ++ c :: b →
      find (a.getLast?.or before) (c :: b ++ rest) = none) :
    rewriteFrom find before (copied ++ rest) =
      copied ++ rewriteFrom find (copied.getLast?.or before) rest := by
  induction copied generalizing before with
  | nil => simp
  | cons c copied ih =>
      have hc : find before (c :: (copied ++ rest)) = none := h [] c copied rfl
      have hbehind : ∀ a d b, copied = a ++ d :: b →
          find (a.getLast?.or (some c)) (d :: b ++ rest) = none := by
        intro a d b hsplit
        have := h (c :: a) d b (by rw [hsplit]; rfl)
        rwa [getLast?_cons_or] at this
      have hrest := ih hbehind
      rw [List.cons_append, rewriteFrom_plain hc, hrest, getLast?_cons_or, List.cons_append]

/-- What stands before a text matters only to what is found at its beginning. -/
theorem rewriteFrom_congr {before' : Option Char} {text : List Char}
    (h : find before text = find before' text) :
    rewriteFrom find before text = rewriteFrom find before' text := by
  cases text with
  | nil => rfl
  | cons c text =>
      unfold rewriteFrom
      rw [scanOnto, scanOnto]
      simp only [h]

/-- One step of a scan takes some characters away and writes something for them, whatever text comes
behind, as long as that changes nothing about what is found. -/
theorem exists_step {x : List Char} (hne : x ≠ [])
    (hfits : ∀ n r, find before x = some (n, r) → 0 < n ∧ n ≤ x.length) :
    ∃ taken rest written, x = taken ++ rest ∧ taken ≠ [] ∧
      ∀ y, find before (x ++ y) = find before x →
        rewriteFrom find before (x ++ y) =
          written ++ rewriteFrom find taken.getLast? (rest ++ y) := by
  cases hfound : find before x with
  | none =>
      obtain ⟨c, rest, rfl⟩ := List.exists_cons_of_ne_nil hne
      refine ⟨[c], rest, [c], rfl, by simp, ?_⟩
      intro y hsame
      exact rewriteFrom_plain hsame
  | some found =>
      obtain ⟨n, replacement⟩ := found
      obtain ⟨hpos, hle⟩ := hfits n replacement hfound
      obtain ⟨taken, rest, rfl, htaken⟩ : ∃ taken rest, x = taken ++ rest ∧ taken.length = n :=
        ⟨x.take n, x.drop n, (List.take_append_drop n x).symm, by
          rw [List.length_take]
          omega⟩
      have htakenne : taken ≠ [] := List.length_pos_iff.mp (by omega)
      refine ⟨taken, rest, replacement, rfl, htakenne, ?_⟩
      intro y hsame
      rw [← htaken, List.append_assoc] at hsame
      rw [List.append_assoc]
      exact rewriteFrom_found htakenne hsame

/-- **A scan comes apart.** Where what is found in a first text lies in it and does not depend on
the text behind it, the two are rewritten one after the other. -/
theorem rewriteFrom_append {x y : List Char}
    (hfits : ∀ a b n r, x = a ++ b → find (a.getLast?.or before) b = some (n, r) →
      0 < n ∧ n ≤ b.length)
    (h : ∀ a b, x = a ++ b → b ≠ [] →
      find (a.getLast?.or before) (b ++ y) = find (a.getLast?.or before) b) :
    rewriteFrom find before (x ++ y) =
      rewriteFrom find before x ++ rewriteFrom find (x.getLast?.or before) y := by
  induction hlength : x.length using Nat.strongRecOn generalizing x before with
  | ind length ih =>
      by_cases hne : x = []
      · simp [hne]
      · have hfirst : ∀ n r, find before x = some (n, r) → 0 < n ∧ n ≤ x.length :=
          fun n r => hfits [] x n r rfl
        obtain ⟨taken, rest, written, hx, htaken, hstep⟩ := exists_step hne hfirst
        have hnear : find before (x ++ y) = find before x := h [] x rfl hne
        have hfar : rewriteFrom find before x =
            written ++ rewriteFrom find taken.getLast? rest := by
          simpa using hstep [] (by rw [List.append_nil])
        have hshorter : rest.length < length := by
          have := List.length_pos_iff.mpr htaken
          rw [← hlength, hx, List.length_append]
          omega
        -- Behind what has been taken the two conditions are as they were.
        have hlast : ∀ a : List Char,
            a.getLast?.or taken.getLast? = (taken ++ a).getLast?.or before := by
          intro a
          rw [List.getLast?_append, List.getLast?_eq_some_getLast htaken]
          cases a.getLast? <;> rfl
        have hbehind : ∀ a b, rest = a ++ b → x = (taken ++ a) ++ b := by
          intro a b hsplit
          rw [hx, hsplit, List.append_assoc]
        have hrest : rewriteFrom find taken.getLast? (rest ++ y) =
            rewriteFrom find taken.getLast? rest ++
              rewriteFrom find (rest.getLast?.or taken.getLast?) y := by
          refine ih rest.length hshorter ?_ ?_ rfl
          · intro a b n r hsplit hfound
            rw [hlast a] at hfound
            exact hfits (taken ++ a) b n r (hbehind a b hsplit) hfound
          · intro a b hsplit hb
            rw [hlast a]
            exact h (taken ++ a) b (hbehind a b hsplit) hb
        rw [hstep y hnear, hfar, hrest, hlast rest, ← hx, List.append_assoc]

end CallMigration.Text
