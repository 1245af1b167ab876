import CallMigration.Proofs.Text.Lines
import CallMigration.Text.Trim

/-!
# Making the changes that a diff tells

A patcher reads a diff in the unified format line by line and makes its changes to a list of lines.
It is strict: a hunk has to begin at the places that its header says, to show as many lines of
either side as its header says, and all lines that it keeps or removes have to be those of the list
at that place (`patch?`).
-/

namespace CallMigration.Diff

/-- What the header of a hunk says: where the hunk is and how many lines it shows on either side. -/
structure Placement where
  oldLine : Nat
  oldSize : Nat
  newLine : Nat
  newSize : Nat
deriving DecidableEq

namespace Placement

/-- The number that a text begins with, in decimal digits, and the text behind it. -/
def number? (text : List Char) : Option (Nat × List Char) :=
  let digits := text.takeWhile Char.isDigit
  if digits = [] then none
  else some (Nat.ofDigitChars 10 digits 0, text.dropWhile Char.isDigit)

/-- The two numbers of one side, behind a sign. -/
def side? (sign text : List Char) : Option (Nat × Nat × List Char) := do
  let (line, rest) ← number? (← Text.stripStart? sign text)
  let (size, rest) ← number? (← Text.stripStart? [','] rest)
  some (line, size, rest)

/-- Reads the header of a hunk. -/
def read? (header : List Char) : Option Placement := do
  let (oldLine, oldSize, rest) ← side? "@@ -".toList header
  let (newLine, newSize, rest) ← side? " +".toList rest
  if rest = " @@".toList then some ⟨oldLine, oldSize, newLine, newSize⟩ else none

/-- How many lines are before a side that begins at a line. A side without lines states the line
before it. -/
def linesBefore? (line size : Nat) : Option Nat :=
  if size = 0 then some line else if line = 0 then none else some (line - 1)

theorem number?_append (n : Nat) {rest : List Char} (h : ∀ c ∈ rest.head?, c.isDigit = false) :
    number? ((toString n).toList ++ rest) = some (n, rest) := by
  have hdigits : ∀ c ∈ Nat.toDigits 10 n, c.isDigit = true :=
    fun c hc => Nat.isDigit_of_mem_toDigits (by decide) (by decide) hc
  have htake : rest.takeWhile Char.isDigit = [] := by
    cases rest with
    | nil => rfl
    | cons c rest => exact List.takeWhile_cons_of_neg (by simp [h c rfl])
  have hdrop : rest.dropWhile Char.isDigit = rest := by
    cases rest with
    | nil => rfl
    | cons c rest => exact List.dropWhile_cons_of_neg (by simp [h c rfl])
  rw [Nat.toString_eq_ofList_toDigits, String.toList_ofList, number?,
    List.takeWhile_append_of_pos hdigits, List.dropWhile_append_of_pos hdigits, htake, hdrop,
    List.append_nil]
  simp only [Nat.toDigits_ne_nil, if_false, Nat.ofDigitChars_ten_toDigits]

theorem side?_append (sign : List Char) (line size : Nat) {rest : List Char}
    (h : ∀ c ∈ rest.head?, c.isDigit = false) :
    side? sign (sign ++ ((toString line).toList ++ ',' :: ((toString size).toList ++ rest))) =
      some (line, size, rest) := by
  have hcomma : Text.stripStart? [','] (',' :: ((toString size).toList ++ rest)) =
      some ((toString size).toList ++ rest) := Text.stripStart?_eq_some_iff.mpr rfl
  rw [side?, Text.stripStart?_eq_some_iff.mpr rfl]
  simp only [Option.bind_eq_bind, Option.bind_some]
  rw [number?_append line (by rintro c ⟨⟩; decide)]
  simp only [Option.bind_some, hcomma]
  rw [number?_append size h]
  rfl

end Placement

/-- Where a patcher is in the list of lines and in the diff. -/
structure Patcher where
  /-- The lines that it has not come to yet. -/
  rest : List String
  /-- How many lines it has passed. -/
  passed : Nat
  /-- The lines that it has made. -/
  made : List String
  /-- How many more lines of the list the hunk is to show. -/
  oldLeft : Nat
  /-- How many more lines of the result the hunk is to show. -/
  newLeft : Nat

namespace Patcher

/-- The patcher at the beginning of a list. -/
def start (lines : List String) : Patcher := ⟨lines, 0, [], 0, 0⟩

/-- Begins a hunk: goes on to the line where it is, over lines that stay. -/
def begin? (s : Patcher) (placement : Placement) : Option Patcher := do
  let before ← Placement.linesBefore? placement.oldLine placement.oldSize
  let gap := before - s.passed
  let made := s.made ++ s.rest.take gap
  let newBefore ← Placement.linesBefore? placement.newLine placement.newSize
  if s.passed ≤ before ∧ gap ≤ s.rest.length ∧ newBefore = made.length then
    some ⟨s.rest.drop gap, before, made, placement.oldSize, placement.newSize⟩
  else none

/-- Passes the next line, which has to be the given one. -/
def pass? (s : Patcher) (text : List Char) : Option Patcher :=
  match s.oldLeft, s.rest with
  | left + 1, line :: rest =>
      if line.toList = text then
        some { s with rest := rest, passed := s.passed + 1, oldLeft := left }
      else none
  | _, _ => none

/-- Makes a line. -/
def make? (s : Patcher) (text : List Char) : Option Patcher :=
  match s.newLeft with
  | left + 1 => some { s with made := s.made ++ [String.ofList text], newLeft := left }
  | 0 => none

/-- Reads a line of a hunk. -/
def change? (s : Patcher) : List Char → Option Patcher
  | ' ' :: text => (s.pass? text).bind (·.make? text)
  | '-' :: text => s.pass? text
  | '+' :: text => s.make? text
  | _ => none

/-- Whether the patcher has read all lines of the last hunk. -/
def AtRest (s : Patcher) : Prop := s.oldLeft = 0 ∧ s.newLeft = 0

instance : DecidablePred AtRest := fun _ => inferInstanceAs (Decidable (_ ∧ _))

/-- Reads a line of a diff: where no hunk goes on, one begins. -/
def step? (s : Patcher) (line : List Char) : Option Patcher :=
  if s.AtRest then (Placement.read? line).bind s.begin? else s.change? line

/-- Reads a line with the line feed that has to end it. -/
def read? (s : Patcher) (line : List Char) : Option Patcher :=
  if line.getLast? = some '\n' then s.step? line.dropLast else none

/-- What has been made, with the lines that are left. -/
def finish? (s : Patcher) : Option (List String) :=
  if s.AtRest then some (s.made ++ s.rest) else none

end Patcher

/-- **Makes the changes that a diff tells to a list of lines.** The two lines that name the file are
skipped. -/
def patch? (diff : String) (lines : List String) : Option (List String) :=
  match Text.linesWithEndings diff.toList with
  | _ :: _ :: body => (body.foldlM Patcher.read? (.start lines)).bind Patcher.finish?
  | _ => none

namespace Patcher

/-- Lines that are ended by a line feed are read without it. -/
theorem foldlM_read? (s : Patcher) (lines : List (List Char)) :
    (lines.map (· ++ ['\n'])).foldlM read? s = lines.foldlM step? s := by
  have hread : ∀ (s : Patcher) (line : List Char), s.read? (line ++ ['\n']) = s.step? line := by
    intro s line
    simp [read?]
  rw [List.foldlM_map]
  simp only [hread]

end Patcher

end CallMigration.Diff
