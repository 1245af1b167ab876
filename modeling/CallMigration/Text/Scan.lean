import CallMigration.Text.CharClass

/-!
# Scanning for matches

A scan walks a text once from the left. At each place it asks a matcher, which sees the character
before that place and the text from there on; a match takes its characters away and the scan goes
on after it, so that matches never overlap and the leftmost one wins.
-/

namespace CallMigration.Text

/-- A piece of a scanned text: a character outside all matches, or a match. -/
inductive Piece (α : Type) where
  | plain (c : Char)
  | found (a : α)
deriving DecidableEq

/-- A matcher answers how many characters it takes, at least one, and what it has found. -/
abbrev Matcher (α : Type) := Option Char → List Char → Option (Nat × α)

variable {α : Type}

/-- Scans on: `before` is the character to the left, `pending` counts the characters that belong to
the last match, and the pieces found so far are in `pieces`, last one first. -/
def scanOnto (find : Matcher α) (pieces : List (Piece α)) (before : Option Char)
    (pending : Nat) : List Char → List (Piece α)
  | [] => pieces.reverse
  | c :: rest =>
      match pending with
      | n + 1 => scanOnto find pieces (some c) n rest
      | 0 =>
          match find before (c :: rest) with
          | some (n + 1, a) => scanOnto find (.found a :: pieces) (some c) n rest
          | _ => scanOnto find (.plain c :: pieces) (some c) 0 rest

/-- The pieces of a text. -/
def scan (find : Matcher α) (text : List Char) : List (Piece α) := scanOnto find [] none 0 text

/-- Pieces found before stay in front. -/
theorem scanOnto_eq_append (find : Matcher α) (pieces : List (Piece α)) (before : Option Char)
    (pending : Nat) (text : List Char) :
    scanOnto find pieces before pending text =
      pieces.reverse ++ scanOnto find [] before pending text := by
  induction text generalizing pieces before pending with
  | nil => simp [scanOnto]
  | cons c rest ih =>
      cases pending with
      | succ n => simp only [scanOnto]; exact ih pieces (some c) n
      | zero =>
          simp only [scanOnto]
          split
          · next n a _ => rw [ih (.found a :: pieces), ih [.found a]]; simp
          · rw [ih (.plain c :: pieces), ih [.plain c]]; simp

/-- The text with every match replaced. -/
def replaceMatches (find : Matcher (List Char)) (text : List Char) : List Char :=
  (scan find text).flatMap fun
    | .plain c => [c]
    | .found replacement => replacement

/-- What the matcher finds in a text, in order. -/
def allMatches (find : Matcher α) (text : List Char) : List α :=
  (scan find text).filterMap fun
    | .plain _ => none
    | .found a => some a

/-- Whether the character at a place, if any, is a word character. -/
def isWordAt (c : Option Char) : Bool := c.any isWordChar

/-- Whether a word begins or ends between two neighbouring characters; outside the text there is
no word. -/
def isWordBoundary (before after : Option Char) : Bool := isWordAt before != isWordAt after

end CallMigration.Text
