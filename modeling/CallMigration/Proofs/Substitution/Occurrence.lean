import CallMigration.Substitution

/-!
# Where names occur

Names are made of word characters, so that a name is found exactly where a maximal run of word
characters spells it (`wordAt?_run`), whichever of the names is tried first. A comma is taken along
with all the blanks behind it or not at all (`occurrenceAt?_comma`).
-/

namespace CallMigration

namespace Text

/-- The code points of blanks outside of ASCII. -/
def wideBlanks : List Nat :=
  [0x85, 0xA0, 0x1680, 0x2028, 0x2029, 0x202F, 0x205F, 0x3000] ++ List.range' 0x2000 11

/-- What holds of all blanks can be looked up: there are few of them. -/
theorem forall_isBlank {p : Char → Bool}
    (hsmall : ∀ n < 0x80, isBlank (Char.ofNat n) = true → p (Char.ofNat n) = true)
    (hwide : ∀ n ∈ wideBlanks, p (Char.ofNat n) = true) {c : Char} (h : isBlank c = true) :
    p c = true := by
  by_cases hc : c.val < 0x80
  · have hlooked := hsmall c.toNat (UInt32.lt_iff_toNat_lt.mp hc)
    rw [Char.ofNat_toNat] at hlooked
    exact hlooked h
  · unfold isBlank at h
    rw [if_neg hc] at h
    obtain ⟨r, hr, hlow, hhigh⟩ := CodeRange.exists_mem_of_anyContains h
    have hlooked := hwide c.toNat (by
      simp only [List.mem_cons, List.not_mem_nil, or_false] at hr
      simp only [wideBlanks, List.mem_append, List.mem_cons, List.not_mem_nil, or_false,
        List.mem_range'_1]
      rcases hr with rfl | rfl | rfl | rfl | rfl | rfl | rfl | rfl <;>
        simp only at hlow hhigh <;> omega)
    rwa [Char.ofNat_toNat] at hlooked

/-- Blank characters are no word characters. -/
theorem isWordChar_of_isBlank {c : Char} (h : isBlank c = true) : isWordChar c = false := by
  have hnot : (!isWordChar c) = true :=
    forall_isBlank (p := fun c => !isWordChar c) (by decide +kernel) (by decide +kernel) h
  simpa using hnot

/-- Whether a text is made of word characters alone. -/
def IsWord (word : List Char) : Prop := ∀ c ∈ word, isWordChar c = true

instance (word : List Char) : Decidable (IsWord word) :=
  decidable_of_iff (word.all isWordChar = true) List.all_eq_true

theorem IsWord.isWordAt_head? {word : List Char} (h : IsWord word) (hne : word ≠ [])
    (rest : List Char) : isWordAt (word ++ rest).head? = true := by
  cases word with
  | nil => exact absurd rfl hne
  | cons c word => simpa [isWordAt] using h c (by simp)

/-- Behind a text the character in front of it is out of sight. -/
theorem getLast?_or_of_ne_nil {text : List Char} (hne : text ≠ []) (before : Option Char) :
    text.getLast?.or before = text.getLast? := by
  rw [List.getLast?_eq_some_getLast hne, Option.some_or]

/-- A text of characters of one kind ends with one of that kind. -/
theorem isWordAt_getLast?_of_forall {text : List Char} {k : Bool} (hne : text ≠ [])
    (h : ∀ c ∈ text, isWordChar c = k) (before : Option Char) :
    isWordAt (text.getLast?.or before) = k := by
  rw [List.getLast?_eq_some_getLast hne, Option.some_or]
  exact h _ (List.getLast_mem hne)

theorem IsWord.isWordAt_getLast? {word : List Char} (h : IsWord word) (hne : word ≠ [])
    (before : Option Char) : isWordAt (word.getLast?.or before) = true :=
  isWordAt_getLast?_of_forall hne h before

/-- What begins a text and is made of characters of one kind lies in the maximal run of these. -/
theorem isPrefix_of_forall {p : Char → Bool} {word run rest : List Char}
    (h : ∀ c ∈ word, p c = true) (hrest : ∀ c ∈ rest.head?, p c = false)
    (hbegins : word <+: run ++ rest) : word <+: run := by
  rcases List.prefix_or_prefix_of_prefix hbegins (List.prefix_append run rest) with hword | hrun
  · exact hword
  · obtain ⟨more, rfl⟩ := hrun
    have hmore := (List.prefix_append_right_inj run).mp hbegins
    cases more with
    | nil => simp
    | cons c more =>
        obtain ⟨after, rfl⟩ := hmore
        have hc := hrest c rfl
        rw [h c (by simp)] at hc
        cases hc

/-- A word at the beginning of a text lies in the maximal run there. -/
theorem IsWord.prefix_run {word run rest : List Char} (h : IsWord word)
    (hrest : isWordAt rest.head? = false) (hbegins : word <+: run ++ rest) : word <+: run := by
  refine isPrefix_of_forall h (fun c hc => ?_) hbegins
  rw [Option.mem_def.mp hc] at hrest
  exact hrest

end Text

namespace Substitution

variable {words : List (List Char)} {before : Option Char}

/-- A search that only one word can answer finds it exactly if it is there. -/
theorem find?_eq_ite {p : List Char → Bool} {word : List Char}
    (h : ∀ w ∈ words, p w = true ↔ w = word) :
    words.find? p = if word ∈ words then some word else none := by
  split
  · next hmem =>
      obtain ⟨w, hfound⟩ : ∃ w, words.find? p = some w :=
        Option.isSome_iff_exists.mp (List.find?_isSome.mpr ⟨word, hmem, (h word hmem).mpr rfl⟩)
      rw [hfound, (h w (List.mem_of_find?_eq_some hfound)).mp (List.find?_some hfound)]
  · next hmem =>
      rw [List.find?_eq_none]
      intro w hw hfound
      exact hmem ((h w hw).mp hfound ▸ hw)

/-- No name is found where no word begins. -/
theorem wordAt?_eq_none {text : List Char} (hwords : ∀ w ∈ words, Text.IsWord w ∧ w ≠ [])
    (htext : Text.isWordAt text.head? = false) : wordAt? words before text = none := by
  unfold wordAt?
  split
  · rw [List.find?_eq_none]
    intro w hw hfound
    rw [Bool.and_eq_true] at hfound
    obtain ⟨rest, rfl⟩ := List.isPrefixOf_iff_prefix.mp hfound.1
    rw [(hwords w hw).1.isWordAt_head? (hwords w hw).2 rest] at htext
    cases htext
  · rfl

/-- **Names are runs.** Where a maximal run of word characters begins, a name is found exactly if it
is that run. -/
theorem wordAt?_run {run rest : List Char} (hwords : ∀ w ∈ words, Text.IsWord w ∧ w ≠ [])
    (hrun : Text.IsWord run) (hne : run ≠ []) (hbefore : Text.isWordAt before = false)
    (hrest : Text.isWordAt rest.head? = false) :
    wordAt? words before (run ++ rest) = if run ∈ words then some run else none := by
  have hstarts : Text.isWordBoundary before (run ++ rest).head? = true := by
    rw [Text.isWordBoundary, hbefore, hrun.isWordAt_head? hne]
    rfl
  have hfits : ∀ w ∈ words, (w.isPrefixOf (run ++ rest) && Text.isWordBoundary
      (w.getLast?.or before) ((run ++ rest).drop w.length).head?) = true ↔ w = run := by
    intro w hw
    obtain ⟨hword, hwne⟩ := hwords w hw
    rw [Bool.and_eq_true, List.isPrefixOf_iff_prefix]
    constructor
    · intro h
      obtain ⟨hbegins, hends⟩ := h
      obtain ⟨more, rfl⟩ := hword.prefix_run hrest hbegins
      have hmore : Text.IsWord more := fun c hc => hrun c (List.mem_append_right w hc)
      by_cases hmne : more = []
      · simp [hmne]
      · rw [List.append_assoc, List.drop_left, Text.isWordBoundary,
          hword.isWordAt_getLast? hwne, hmore.isWordAt_head? hmne] at hends
        cases hends
    · intro heq
      subst heq
      exact ⟨List.prefix_append w rest, by
        simp [Text.isWordBoundary, hword.isWordAt_getLast? hwne, hrest]⟩
  unfold wordAt?
  rw [if_pos hstarts, find?_eq_ite hfits]

theorem occurrenceBehind?_eq_none {comma text : List Char}
    (hwords : ∀ w ∈ words, Text.IsWord w ∧ w ≠ []) (htext : Text.isWordAt text.head? = false) :
    occurrenceBehind? words comma before text = none := by
  rw [occurrenceBehind?, wordAt?_eq_none hwords htext, Option.map_none]

/-- Behind a comma, too, a name is found exactly if it is the run that begins there. -/
theorem occurrenceBehind?_run {comma run rest : List Char}
    (hwords : ∀ w ∈ words, Text.IsWord w ∧ w ≠ []) (hrun : Text.IsWord run) (hne : run ≠ [])
    (hbefore : Text.isWordAt (comma.getLast?.or before) = false)
    (hrest : Text.isWordAt rest.head? = false) :
    occurrenceBehind? words comma before (run ++ rest) =
      if run ∈ words then some ⟨comma, run, rest.head? == some '('⟩ else none := by
  rw [occurrenceBehind?, wordAt?_run hwords hrun hne hbefore hrest]
  split
  · rw [Option.map_some, List.drop_left]
  · rfl

/-- Nothing is found at a character that neither begins a word nor is a comma. -/
theorem occurrenceAt?_eq_none {c : Char} {rest : List Char}
    (hwords : ∀ w ∈ words, Text.IsWord w ∧ w ≠ []) (hc : Text.isWordChar c = false)
    (hcomma : c ≠ ',') : occurrenceAt? words before (c :: rest) = none := by
  unfold occurrenceAt?
  rw [occurrenceBehind?_eq_none hwords (by simpa [Text.isWordAt] using hc)]
  split
  · next heq => exact absurd (List.cons.inj heq).1 hcomma
  · rfl

/-- **A comma takes all blanks along.** What is found at a comma is found behind all the blanks that
follow it. -/
theorem occurrenceAt?_comma {blanks rest : List Char}
    (hwords : ∀ w ∈ words, Text.IsWord w ∧ w ≠ []) (hblanks : ∀ c ∈ blanks, Text.isBlank c = true)
    (hrest : rest.head?.any Text.isBlank = false) :
    occurrenceAt? words before (',' :: (blanks ++ rest)) =
      occurrenceBehind? words (',' :: blanks) before rest := by
  have hall : (blanks ++ rest).takeWhile Text.isBlank = blanks := by
    rw [List.takeWhile_append_of_pos hblanks]
    cases rest <;> simp_all
  have hfewer : (List.range blanks.length).reverse.findSome? (fun n =>
      occurrenceBehind? words (',' :: (blanks ++ rest).take n) before
        ((blanks ++ rest).drop n)) = none := by
    rw [List.findSome?_eq_none_iff]
    intro n hn
    have hlt : n < blanks.length := by simpa using hn
    apply occurrenceBehind?_eq_none hwords
    rw [List.drop_append_of_le_length (by omega), List.drop_eq_getElem_cons hlt]
    exact Text.isWordChar_of_isBlank (hblanks _ (List.getElem_mem hlt))
  have hbare : occurrenceBehind? words [] before (',' :: (blanks ++ rest)) = none :=
    occurrenceBehind?_eq_none hwords (show Text.isWordChar ',' = false by decide)
  unfold occurrenceAt?
  simp only [hall, hbare, List.range_succ, List.reverse_append, List.reverse_singleton,
    List.singleton_append, List.findSome?_cons, List.take_left, List.drop_left, hfewer]
  cases occurrenceBehind? words (',' :: blanks) before rest <;> rfl

/-- Nothing is found at a character that is none of a word, unless it is a comma with a word behind
it. -/
theorem occurrenceAt?_gap {c : Char} {after : List Char}
    (hwords : ∀ w ∈ words, Text.IsWord w ∧ w ≠ []) (hc : Text.isWordChar c = false)
    (hafter : c = ',' → Text.isWordAt (after.dropWhile Text.isBlank).head? = false) :
    occurrenceAt? words before (c :: after) = none := by
  by_cases hcomma : c = ','
  · have hrest : (after.dropWhile Text.isBlank).head?.any Text.isBlank = false := by
      have := List.head?_dropWhile_not Text.isBlank after
      cases hhead : (after.dropWhile Text.isBlank).head? with
      | none => rfl
      | some d => simpa [hhead] using this
    rw [← List.takeWhile_append_dropWhile (p := Text.isBlank) (l := after), hcomma,
      occurrenceAt?_comma hwords (List.all_eq_true.mp List.all_takeWhile) hrest]
    exact occurrenceBehind?_eq_none hwords (hafter hcomma)
  · exact occurrenceAt?_eq_none hwords hc hcomma

theorem occurrenceAt?_inside {c : Char} {rest : List Char} (hbefore : Text.isWordAt before = true)
    (hc : Text.isWordChar c = true) : occurrenceAt? words before (c :: rest) = none := by
  have hnone : wordAt? words before (c :: rest) = none := by
    have hat : Text.isWordAt (c :: rest).head? = true := hc
    rw [wordAt?, Text.isWordBoundary, hbefore, hat]
    rfl
  have hcomma : c ≠ ',' := by
    intro heq
    rw [heq] at hc
    exact absurd hc (by decide)
  unfold occurrenceAt?
  rw [occurrenceBehind?, List.getLast?_nil, Option.none_or, hnone]
  split
  · next heq => exact absurd (List.cons.inj heq).1 hcomma
  · rfl

/-- Where a maximal run of word characters begins, a name is found exactly if it is that run. -/
theorem occurrenceAt?_run {run rest : List Char} (hwords : ∀ w ∈ words, Text.IsWord w ∧ w ≠ [])
    (hrun : Text.IsWord run) (hne : run ≠ []) (hbefore : Text.isWordAt before = false)
    (hrest : Text.isWordAt rest.head? = false) :
    occurrenceAt? words before (run ++ rest) =
      if run ∈ words then some ⟨[], run, rest.head? == some '('⟩ else none := by
  have hhead : (run ++ rest).head? ≠ some ',' := by
    intro hcomma
    have := hrun.isWordAt_head? hne rest
    rw [hcomma] at this
    exact absurd this (by decide)
  unfold occurrenceAt?
  rw [occurrenceBehind?_run hwords hrun hne (by simpa using hbefore) hrest]
  split
  · next heq => exact absurd (by rw [heq]; rfl) hhead
  · rfl

end Substitution

end CallMigration
