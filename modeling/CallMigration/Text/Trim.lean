import CallMigration.Text.CharClass

/-!
# Trimming and splitting

Text is trimmed of blank characters at its ends and split at a separator. Splitting always yields
at least one part, and joining the parts with the separator gives the text back
(`flatten_splitOn`).
-/

namespace CallMigration.Text

/-- The text without its leading blank characters. -/
def trimStart (cs : List Char) : List Char := cs.dropWhile isBlank

/-- The text without its leading and trailing blank characters. -/
def trim (cs : List Char) : List Char :=
  ((trimStart cs).reverse.dropWhile isBlank).reverse

/-- Puts a character in front of the first part. -/
def consFirst (c : Char) : List (List Char) → List (List Char)
  | [] => [[c]]
  | part :: parts => (c :: part) :: parts

/-- The parts of a text between the occurrences of a separator character. -/
def splitOn (separator : Char) (cs : List Char) : List (List Char) :=
  cs.foldr (fun c parts => if c = separator then [] :: parts else consFirst c parts) [[]]

@[simp] theorem splitOn_nil (separator : Char) : splitOn separator [] = [[]] := rfl

@[simp] theorem splitOn_cons (separator c : Char) (cs : List Char) :
    splitOn separator (c :: cs) =
      if c = separator then [] :: splitOn separator cs
      else consFirst c (splitOn separator cs) := rfl

/-- Splitting yields at least one part. -/
theorem splitOn_ne_nil (separator : Char) (cs : List Char) : splitOn separator cs ≠ [] := by
  cases cs with
  | nil => simp
  | cons c cs => cases h : splitOn separator cs <;> grind [splitOn_cons, consFirst]

/-- Joining the parts with the separator gives the text back. -/
theorem flatten_splitOn (separator : Char) (cs : List Char) :
    ((splitOn separator cs).intersperse [separator]).flatten = cs := by
  induction cs with
  | nil => simp
  | cons c cs ih =>
      cases hs : splitOn separator cs with
      | nil => exact absurd hs (splitOn_ne_nil separator cs)
      | cons part parts =>
          rw [hs] at ih
          by_cases hc : c = separator
          · subst hc; simpa [hs] using ih
          · cases parts <;> simpa [hs, hc, consFirst] using ih

/-- The text before the first occurrence of a separator and the text after it, if there is one. -/
def splitOnce? (separator : Char) (cs : List Char) : Option (List Char × List Char) :=
  match cs.dropWhile (· ≠ separator) with
  | [] => none
  | _ :: rest => some (cs.takeWhile (· ≠ separator), rest)

/-- A text with a separator is split at the first one. -/
theorem splitOnce?_append {separator : Char} {a : List Char} (h : separator ∉ a) (b : List Char) :
    splitOnce? separator (a ++ separator :: b) = some (a, b) := by
  have hplain : ∀ c ∈ a, decide (c ≠ separator) = true := by
    intro c hc
    exact decide_eq_true fun heq => h (heq ▸ hc)
  rw [splitOnce?, List.dropWhile_append_of_pos hplain, List.takeWhile_append_of_pos hplain]
  simp

theorem splitOnce?_eq_none_iff {separator : Char} {cs : List Char} :
    splitOnce? separator cs = none ↔ separator ∉ cs := by
  constructor
  · intro hnone hmem
    obtain ⟨a, b, rfl, ha⟩ := List.eq_append_cons_of_mem hmem
    rw [splitOnce?_append ha] at hnone
    cases hnone
  · intro hplain
    have hdrop : (cs ++ []).dropWhile (· ≠ separator) = [] :=
      List.dropWhile_append_of_pos fun c hc => decide_eq_true fun heq => hplain (heq ▸ hc)
    rw [List.append_nil] at hdrop
    rw [splitOnce?, hdrop]

theorem splitOnce?_eq_some_iff {separator : Char} {cs a b : List Char} :
    splitOnce? separator cs = some (a, b) ↔ cs = a ++ separator :: b ∧ separator ∉ a := by
  constructor
  · intro hsome
    by_cases hmem : separator ∈ cs
    · obtain ⟨a', b', rfl, ha⟩ := List.eq_append_cons_of_mem hmem
      rw [splitOnce?_append ha] at hsome
      obtain ⟨rfl, rfl⟩ := Prod.mk.inj (Option.some.inj hsome)
      exact ⟨rfl, ha⟩
    · rw [splitOnce?_eq_none_iff.mpr hmem] at hsome
      cases hsome
  · rintro ⟨rfl, ha⟩
    exact splitOnce?_append ha b

/-- The text after a given beginning, if it begins so. -/
def stripStart? (start cs : List Char) : Option (List Char) :=
  if start.isPrefixOf cs then some (cs.drop start.length) else none

/-- A text begins with another one exactly when the latter can be taken off. -/
theorem stripStart?_eq_some_iff {start cs rest : List Char} :
    stripStart? start cs = some rest ↔ cs = start ++ rest := by
  unfold stripStart?
  constructor
  · intro h
    split at h
    · next hp =>
        obtain ⟨t, rfl⟩ := List.isPrefixOf_iff_prefix.mp hp
        simpa using h
    · cases h
  · rintro rfl
    simp

end CallMigration.Text
