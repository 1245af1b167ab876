import CallMigration.Proofs.Substitution.Separation

/-!
# Words that stand in a text

Substitution can change a text only where a name stands in it as a word of its own, with a word
boundary on either side (`Substitution.apply_of_not_standsIn`). No name but the text itself does so
if all characters are of one kind, be it those of words or the others (`eq_of_standsIn`). On the
other hand every text with a word character holds a word that some substitution changes
(`exists_first_run`, `rewriteFrom_marking_ne`).
-/

namespace CallMigration

namespace Text

theorem isWordBoundary_eq_false {a b : Option Char} (ha : isWordAt a = false)
    (hb : isWordAt b = false) : isWordBoundary a b = false := by
  rw [isWordBoundary, ha, hb]
  rfl

theorem isWordBoundary_some {c d : Char} (h : isWordChar c = isWordChar d) :
    isWordBoundary (some c) (some d) = false := by
  simp [isWordBoundary, isWordAt, h]

end Text

namespace Substitution

variable {words : List (List Char)} {before : Option Char} {text : List Char}

/-- Whether a word stands in a text as a word of its own, when the text has these two neighbours. -/
def StandsIn (before after : Option Char) (word text : List Char) : Prop :=
  ∃ a b, text = a ++ (word ++ b) ∧
    Text.isWordBoundary (a.getLast?.or before) word.head? = true ∧
    Text.isWordBoundary word.getLast? (b.head?.or after) = true

/-- A name that is found in a text, and lies in it, stands there as a word of its own. -/
theorem standsIn_of_wordAt? {a b rest word : List Char} (hwords : ∀ w ∈ words, w ≠ [])
    (h : wordAt? words (a.getLast?.or before) (b ++ rest) = some word) (hfits : word <+: b) :
    word ∈ words ∧ StandsIn before rest.head? word (a ++ b) := by
  obtain ⟨hmem, after, hsplit, hbegins, hends⟩ := wordAt?_eq_some h
  obtain ⟨remaining, rfl⟩ := hfits
  obtain rfl : after = remaining ++ rest := by
    rw [List.append_assoc] at hsplit
    exact (List.append_cancel_left hsplit).symm
  have hne := hwords word hmem
  have hlast : word.getLast?.or (a.getLast?.or before) = word.getLast? :=
    Text.getLast?_or_of_ne_nil hne _
  refine ⟨hmem, a, remaining, rfl, ?_, ?_⟩
  · rwa [hsplit, List.head?_append_of_ne_nil _ hne] at hbegins
  · rwa [hlast, List.head?_append] at hends

/-- A name that stands in a text all of which characters are of one kind is that text. -/
theorem eq_of_standsIn {after : Option Char} {word : List Char} {k : Bool}
    (hkind : ∀ c ∈ text, Text.isWordChar c = k) (hne : word ≠ [])
    (h : StandsIn before after word text) : word = text := by
  obtain ⟨a, b, rfl, hbegins, hends⟩ := h
  have hsame : ∀ c d, c ∈ a ++ (word ++ b) → d ∈ a ++ (word ++ b) →
      Text.isWordChar c = Text.isWordChar d := by
    intro c d hc hd
    rw [hkind c hc, hkind d hd]
  have hfirst : a = [] := by
    by_contra ha
    rw [List.getLast?_eq_some_getLast ha, Option.some_or, List.head?_eq_some_head hne,
      Text.isWordBoundary_some (hsame _ _ (by simp) (by simp))] at hbegins
    cases hbegins
  have hlast : b = [] := by
    by_contra hb
    rw [List.getLast?_eq_some_getLast hne, List.head?_eq_some_head hb, Option.some_or,
      Text.isWordBoundary_some (hsame _ _ (by simp) (by simp))] at hends
    cases hends
  rw [hfirst, hlast, List.nil_append, List.append_nil]

/-- No name stands in a text without word characters. -/
theorem not_standsIn {word : List Char} (htext : ∀ c ∈ text, Text.isWordChar c = false) :
    ¬ StandsIn none none word text := by
  intro h
  obtain ⟨a, b, rfl, hbegins, -⟩ := h
  have hlast : Text.isWordAt (a.getLast?.or none) = false := by
    rw [Option.or_none]
    cases hc : a.getLast? with
    | none => rfl
    | some c => exact htext c (List.mem_append_left _ (List.mem_of_getLast? hc))
  have hhead : Text.isWordAt word.head? = false :=
    isWordAt_head?_of_forall fun c hc => htext c (by simp [List.mem_of_head? hc])
  rw [Text.isWordBoundary_eq_false hlast hhead] at hbegins
  cases hbegins

/-- **A text in which no name stands as a word of its own is left as it is.** -/
theorem apply_of_not_standsIn {s : Substitution} {template : String}
    (h : ∀ name ∈ s.words, ¬ StandsIn none none name.toList template.toList) :
    s.apply template = template := by
  have hcopy : Text.rewriteFrom s.finder none (template.toList ++ []) =
      template.toList ++ Text.rewriteFrom s.finder (template.toList.getLast?.or none) [] := by
    refine Text.rewriteFrom_copy fun a c b hsplit => finder_eq_none ?_
    cases hfound : occurrenceAt? (s.words.map String.toList) (a.getLast?.or none)
        (c :: b ++ []) with
    | none => rfl
    | some o =>
        obtain ⟨-, behind, hbehind, hword⟩ := occurrenceAt?_eq_some hfound
        rw [← Option.or_assoc, ← List.getLast?_append, ← List.append_nil behind] at hword
        have hfits : o.word <+: behind := by
          obtain ⟨-, after, hafter, -, -⟩ := wordAt?_eq_some hword
          exact ⟨after, by simpa using hafter.symm⟩
        obtain ⟨hmem, hstands⟩ := standsIn_of_wordAt? ne_nil_of_mem_words hword hfits
        rw [List.append_nil] at hbehind
        rw [List.append_assoc, ← hbehind, ← hsplit] at hstands
        obtain ⟨name, hname, heq⟩ := List.mem_map.mp hmem
        rw [← heq] at hstands
        exact absurd hstands (h name hname)
  apply String.toList_inj.mp
  rw [toList_apply]
  simpa using hcopy

section Marking

/-- The substitution that writes a percent sign for one name. -/
def marking (name : String) : Substitution := ⟨none, [(name, "%")], []⟩

theorem namesAreWords_marking {run : List Char} (hrun : Text.IsWord run) :
    (marking (String.ofList run)).NamesAreWords := by
  intro name hname
  obtain rfl : name = String.ofList run := by simpa [marking] using hname
  rwa [String.toList_ofList]

theorem standIn_marking (run : List Char) (called : Bool) :
    (marking (String.ofList run)).standIn run called = (['%'], false) := by
  simp [standIn, marking]

/-- A text with a word character holds a maximal run of these, of which there is a first one. -/
theorem exists_first_run (h : ∃ c ∈ text, Text.isWordChar c = true) :
    ∃ gap run rest, text = gap ++ (run ++ rest) ∧ (∀ c ∈ gap, Text.isWordChar c = false) ∧
      run ≠ [] ∧ Text.IsWord run ∧ Text.isWordAt rest.head? = false := by
  have hne : text ≠ [] := by
    obtain ⟨c, hc, -⟩ := h
    exact List.ne_nil_of_mem hc
  obtain ⟨k, chunk, rest, rfl, hchunk, hall, hrest⟩ := exists_chunk hne
  cases k with
  | true => exact ⟨[], chunk, rest, rfl, by simp, hchunk, hall, isWordAt_head?_of_forall hrest⟩
  | false =>
      have hrestne : rest ≠ [] := by
        intro hnil
        obtain ⟨c, hc, hword⟩ := h
        rw [hnil, List.append_nil] at hc
        rw [hall c hc] at hword
        cases hword
      obtain ⟨run, after, rfl, hrun, hrunall, hafter⟩ := exists_run hrestne hrest
      exact ⟨chunk, run, after, rfl, hall, hrun, hrunall, isWordAt_head?_of_forall hafter⟩

/-- **Every word can be changed.** The substitution that marks the first run of word characters in a
text changes the text. -/
theorem rewriteFrom_marking_ne {gap run rest : List Char}
    (hgap : ∀ c ∈ gap, Text.isWordChar c = false) (hne : run ≠ []) (hrun : Text.IsWord run)
    (hrest : Text.isWordAt rest.head? = false) :
    Text.rewriteFrom (marking (String.ofList run)).finder none (gap ++ (run ++ rest)) ≠
      gap ++ (run ++ rest) := by
  have hnames := namesAreWords_marking hrun
  have hwritten : Text.rewriteFrom (marking (String.ofList run)).finder none
      (gap ++ (run ++ rest)) =
        gap ++ '%' :: Text.rewriteFrom (marking (String.ofList run)).finder run.getLast? rest := by
    by_cases hempty : gap = []
    · rw [hempty, List.nil_append, rewriteFrom_run hnames hne hrun rfl hrest, standIn_marking]
      rfl
    · rw [rewriteFrom_gap hnames hempty hgap hne hrun hrest, standIn_marking]
      rfl
  rw [hwritten]
  intro hsame
  have hhead : (run ++ rest).head? = some '%' := by
    rw [← List.append_cancel_left hsame]
    rfl
  rw [List.head?_append_of_ne_nil _ hne] at hhead
  exact absurd (hrun '%' (List.mem_of_head? hhead)) (by decide)

end Marking

end Substitution

end CallMigration
