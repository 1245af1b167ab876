import CallMigration.Proofs.Substitution.Words
import Mathlib.Data.List.Find

/-!
# Where a template comes apart

A template is substituted in two parts where nothing that is found in the first part depends on the
second one (`Substitution.Apart`, `rewriteFrom_append_of_apart`). There are two such places:

* in front of a character that no name holds, that is none of a word, no blank and no opening
  parenthesis (`Apart.of_separator`);
* behind a character that no name holds, if no name is found there (`Apart.of_last`).

Both rest on what is found at all: a word with a boundary on either side, behind a comma and blanks
or not (`occurrenceAt?_eq_some`).
-/

namespace CallMigration

namespace Text

theorem isWordAt_or {before before' : Option Char} (h : isWordAt before = isWordAt before')
    (o : Option Char) : isWordAt (o.or before) = isWordAt (o.or before') := by
  cases o with
  | none => simpa using h
  | some c => rfl

theorem ne_nil_of_isWordAt_head? {text : List Char} (h : isWordAt text.head? = true) :
    text ≠ [] := by
  rintro rfl
  cases h

end Text

namespace Substitution

variable {words : List (List Char)} {before before' : Option Char} {text : List Char}

section Occurrences

/-- A word that is found begins the text, with a boundary on either side. -/
theorem wordAt?_eq_some {word : List Char} (h : wordAt? words before text = some word) :
    word ∈ words ∧ ∃ rest, text = word ++ rest ∧
      Text.isWordBoundary before text.head? = true ∧
      Text.isWordBoundary (word.getLast?.or before) rest.head? = true := by
  unfold wordAt? at h
  split at h
  · next hbegins =>
      have hfits := List.find?_some h
      rw [Bool.and_eq_true] at hfits
      obtain ⟨hfront, hends⟩ := hfits
      obtain ⟨rest, rfl⟩ := List.isPrefixOf_iff_prefix.mp hfront
      rw [List.drop_left] at hends
      exact ⟨List.mem_of_find?_eq_some h, rest, rfl, hbegins, hends⟩
  · cases h

theorem occurrenceBehind?_eq_some {comma : List Char} {o : Occurrence}
    (h : occurrenceBehind? words comma before text = some o) :
    o.comma = comma ∧ wordAt? words (comma.getLast?.or before) text = some o.word := by
  obtain ⟨word, hword, rfl⟩ := Option.map_eq_some_iff.mp h
  exact ⟨rfl, hword⟩

/-- What is found is a word, behind a comma and blanks if it takes these along. -/
theorem occurrenceAt?_eq_some {o : Occurrence} (h : occurrenceAt? words before text = some o) :
    (o.comma = [] ∨ IsComma o.comma) ∧ ∃ behind, text = o.comma ++ behind ∧
      wordAt? words (o.comma.getLast?.or before) behind = some o.word := by
  unfold occurrenceAt? at h
  rcases Option.or_eq_some_iff.mp h with hcomma | ⟨-, hbare⟩
  · split at hcomma
    · next rest =>
        obtain ⟨n, hn, hfound⟩ := List.exists_of_findSome?_eq_some hcomma
        obtain ⟨heq, hword⟩ := occurrenceBehind?_eq_some hfound
        have hle : n ≤ (rest.takeWhile Text.isBlank).length :=
          Nat.le_of_lt_succ (List.mem_range.mp (List.mem_reverse.mp hn))
        have hblanks : rest.take n <+: rest.takeWhile Text.isBlank :=
          List.prefix_of_prefix_length_le (List.take_prefix n rest)
            (List.takeWhile_prefix Text.isBlank) ((List.length_take_le n rest).trans hle)
        refine ⟨Or.inr ⟨rest.take n, heq, fun c hc => ?_⟩, rest.drop n, ?_, heq ▸ hword⟩
        · exact List.all_eq_true.mp List.all_takeWhile c (hblanks.subset hc)
        · rw [heq, List.cons_append, List.take_append_drop]
    · cases hcomma
  · obtain ⟨heq, hword⟩ := occurrenceBehind?_eq_some hbare
    exact ⟨Or.inl heq, text, by rw [heq]; rfl, heq ▸ hword⟩

/-- What is found takes characters away, and only such as are there. -/
theorem length_of_occurrenceAt? {o : Occurrence} (hwords : ∀ w ∈ words, w ≠ [])
    (h : occurrenceAt? words before text = some o) :
    0 < o.comma.length + o.word.length ∧ o.comma.length + o.word.length ≤ text.length := by
  obtain ⟨-, behind, rfl, hword⟩ := occurrenceAt?_eq_some h
  obtain ⟨hmem, rest, rfl, -, -⟩ := wordAt?_eq_some hword
  have := List.length_pos_iff.mpr (hwords _ hmem)
  simp only [List.length_append]
  omega

/-- What stands before a place matters only in so far as a word may reach up to it. -/
theorem wordAt?_congr (h : Text.isWordAt before = Text.isWordAt before') :
    wordAt? words before text = wordAt? words before' text := by
  unfold wordAt? Text.isWordBoundary
  rw [h]
  congr 1
  exact List.find?_congr fun w _ => by rw [Text.isWordAt_or h]

theorem occurrenceBehind?_congr {comma : List Char}
    (h : Text.isWordAt before = Text.isWordAt before') :
    occurrenceBehind? words comma before text = occurrenceBehind? words comma before' text := by
  rw [occurrenceBehind?, occurrenceBehind?, wordAt?_congr (Text.isWordAt_or h _)]

theorem occurrenceAt?_congr (h : Text.isWordAt before = Text.isWordAt before') :
    occurrenceAt? words before text = occurrenceAt? words before' text := by
  have hbehind : ∀ comma text, occurrenceBehind? words comma before text =
      occurrenceBehind? words comma before' text := fun _ _ => occurrenceBehind?_congr h
  simp only [occurrenceAt?, hbehind]

/-- No name is found where none begins the text. -/
theorem wordAt?_eq_none_of_forall (h : ∀ w ∈ words, ¬ w <+: text) :
    wordAt? words before text = none := by
  cases hfound : wordAt? words before text with
  | none => rfl
  | some word =>
      obtain ⟨hmem, rest, hsplit, -, -⟩ := wordAt?_eq_some hfound
      exact absurd ⟨rest, hsplit.symm⟩ (h word hmem)

/-- No name is found at a character with which no name begins. -/
theorem wordAt?_eq_none_of_head {c : Char} (hwords : ∀ w ∈ words, w ≠ [])
    (hc : ∀ w ∈ words, w.head? ≠ some c) : wordAt? words before (c :: text) = none := by
  refine wordAt?_eq_none_of_forall fun w hw hbegins => ?_
  obtain ⟨rest, hsplit⟩ := hbegins
  have hhead : (w ++ rest).head? = some c := by rw [hsplit]; rfl
  rw [List.head?_append_of_ne_nil _ (hwords w hw)] at hhead
  exact hc w hw hhead

theorem wordAt?_nil (hwords : ∀ w ∈ words, w ≠ []) : wordAt? words before [] = none :=
  wordAt?_eq_none_of_forall fun w hw hbegins => hwords w hw (List.prefix_nil.mp hbegins)

theorem occurrenceAt?_of_ne_comma {c : Char} (hc : c ≠ ',') :
    occurrenceAt? words before (c :: text) = occurrenceBehind? words [] before (c :: text) := by
  unfold occurrenceAt?
  split
  · next heq => exact absurd (List.cons.inj heq).1 hc
  · rfl

/-- At a character with which no name begins, what stands before it does not matter. -/
theorem occurrenceAt?_of_head {c : Char} (hwords : ∀ w ∈ words, w ≠ [])
    (hc : ∀ w ∈ words, w.head? ≠ some c) (before before' : Option Char) (text : List Char) :
    occurrenceAt? words before (c :: text) = occurrenceAt? words before' (c :: text) := by
  have hbare : ∀ before, occurrenceBehind? words [] before (c :: text) = none := by
    intro before
    rw [occurrenceBehind?, wordAt?_eq_none_of_head hwords hc, Option.map_none]
  by_cases hcomma : c = ','
  · subst hcomma
    have hbehind : ∀ taken rest, occurrenceBehind? words (',' :: taken) before rest =
        occurrenceBehind? words (',' :: taken) before' rest := by
      intro taken rest
      rw [occurrenceBehind?, occurrenceBehind?, List.getLast?_eq_some_getLast (by simp),
        Option.some_or, Option.some_or]
    simp only [occurrenceAt?, hbare, hbehind]
  · rw [occurrenceAt?_of_ne_comma hcomma, occurrenceAt?_of_ne_comma hcomma, hbare, hbare]

end Occurrences

/-- Whether nothing that is found in a first text depends on the text behind it. -/
structure Apart (words : List (List Char)) (x y : List Char) : Prop where
  /-- No name reaches from the one text into the other. -/
  within : ∀ w ∈ words, ∀ b, b <:+ x → b ≠ [] → w <+: b ++ y → w <+: b
  /-- Where a name ends the first text, the second one neither goes on with it nor calls it. -/
  ends : ∀ w ∈ words, w <:+ x → Text.isWordAt y.head? = false ∧ y.head? ≠ some '('
  /-- No blanks behind a comma go on in the second text, and no name follows them there. -/
  blank : y.head?.any Text.isBlank = false
  begins : wordAt? words x.getLast? y = none

namespace Apart

variable {x y : List Char}

/-- A text comes apart in front of a character of no name, unless it is a blank, an opening
parenthesis or one of a word. -/
theorem of_separator {d : Char} (hwords : ∀ w ∈ words, w ≠ []) (hd : ∀ w ∈ words, d ∉ w)
    (hword : Text.isWordChar d = false) (hblank : Text.isBlank d = false) (hopen : d ≠ '(')
    (x y : List Char) : Apart words x (d :: y) where
  within := by
    intro w hw b _ _ hbegins
    rcases List.prefix_or_prefix_of_prefix hbegins (List.prefix_append b (d :: y)) with hin | hout
    · exact hin
    · obtain ⟨more, rfl⟩ := hout
      have hmore := (List.prefix_append_right_inj b).mp hbegins
      cases more with
      | nil => simp
      | cons c more =>
          obtain ⟨rfl, -⟩ := List.cons_prefix_cons.mp hmore
          exact absurd (by simp) (hd _ hw)
  ends := by
    intro w _ _
    refine ⟨hword, fun hcalled => hopen (Option.some.inj hcalled)⟩
  blank := hblank
  begins := by
    refine wordAt?_eq_none_of_head hwords fun w hw hhead => ?_
    exact hd w hw (List.mem_of_head? hhead)

/-- A text comes apart behind a character of no name, if no name is found there. -/
theorem of_last (hwords : ∀ w ∈ words, w ≠ []) (hlast : ∀ c ∈ x.getLast?, ∀ w ∈ words, c ∉ w)
    (hblank : y.head?.any Text.isBlank = false) (hnone : wordAt? words x.getLast? y = none) :
    Apart words x y where
  within := by
    intro w hw b hb hne hbegins
    rcases List.prefix_or_prefix_of_prefix hbegins (List.prefix_append b y) with hin | hout
    · exact hin
    · obtain ⟨front, rfl⟩ := hb
      have hend : (front ++ b).getLast? = some (b.getLast hne) := by
        rw [List.getLast?_append_of_ne_nil _ hne, List.getLast?_eq_some_getLast hne]
      exact absurd (hout.subset (List.getLast_mem hne)) (hlast _ hend w hw)
  ends := by
    intro w hw hends
    obtain ⟨front, rfl⟩ := hends
    have hne := hwords w hw
    have hend : (front ++ w).getLast? = some (w.getLast hne) := by
      rw [List.getLast?_append_of_ne_nil _ hne, List.getLast?_eq_some_getLast hne]
    exact absurd (List.getLast_mem hne) (hlast _ hend w hw)
  blank := hblank
  begins := hnone

/-- A name in the first text is followed there as it is in front of the second one. -/
theorem next_eq (h : Apart words x y) {w b : List Char} (hw : w ∈ words) (hb : b <:+ x)
    (hbegins : w <+: b) :
    Text.isWordAt ((b ++ y).drop w.length).head? = Text.isWordAt (b.drop w.length).head? ∧
      (((b ++ y).drop w.length).head? == some '(') = ((b.drop w.length).head? == some '(') := by
  obtain ⟨after, rfl⟩ := hbegins
  rw [List.append_assoc, List.drop_left, List.drop_left]
  by_cases hne : after = []
  · subst hne
    rw [List.append_nil] at hb
    obtain ⟨hword, hcalled⟩ := h.ends w hw hb
    refine ⟨hword, ?_⟩
    simpa using hcalled
  · rw [List.head?_append_of_ne_nil _ hne]
    exact ⟨rfl, rfl⟩

theorem wordAt?_append (h : Apart words x y) {b : List Char} (hb : b <:+ x) (hne : b ≠ []) :
    wordAt? words before (b ++ y) = wordAt? words before b := by
  unfold wordAt?
  rw [List.head?_append_of_ne_nil _ hne]
  congr 1
  refine List.find?_congr fun w hw => ?_
  by_cases hbegins : w <+: b
  · have hnext := (h.next_eq hw hb hbegins).1
    have hlonger : w <+: b ++ y := hbegins.trans (List.prefix_append b y)
    rw [List.isPrefixOf_iff_prefix.mpr hbegins, List.isPrefixOf_iff_prefix.mpr hlonger,
      Text.isWordBoundary, Text.isWordBoundary, hnext]
  · have hnot : ¬ w <+: b ++ y := fun hlonger => hbegins (h.within w hw b hb hne hlonger)
    rw [Bool.eq_false_iff.mpr (mt List.isPrefixOf_iff_prefix.mp hbegins),
      Bool.eq_false_iff.mpr (mt List.isPrefixOf_iff_prefix.mp hnot)]
    rfl

theorem occurrenceBehind?_append (h : Apart words x y) {comma b : List Char} (hb : b <:+ x)
    (hne : b ≠ []) :
    occurrenceBehind? words comma before (b ++ y) = occurrenceBehind? words comma before b := by
  unfold occurrenceBehind?
  rw [h.wordAt?_append hb hne]
  cases hfound : wordAt? words (comma.getLast?.or before) b with
  | none => rfl
  | some w =>
      obtain ⟨hmem, after, hsplit, -, -⟩ := wordAt?_eq_some hfound
      have hnext := (h.next_eq hmem hb ⟨after, hsplit.symm⟩).2
      rw [Option.map_some, Option.map_some, hnext]

/-- Blanks in the first text do not go on in the second one. -/
theorem takeWhile_append (h : Apart words x y) (b : List Char) :
    (b ++ y).takeWhile Text.isBlank = b.takeWhile Text.isBlank := by
  have hnone : y.takeWhile Text.isBlank = [] := by
    have := h.blank
    cases y <;> simp_all
  rw [List.takeWhile_append]
  split
  · next hall =>
      rw [hnone, List.append_nil]
      exact ((List.takeWhile_sublist _).eq_of_length hall).symm
  · rfl

/-- **What is found in the first text is found without the second one.** -/
theorem occurrenceAt?_append (h : Apart words x y) (hwords : ∀ w ∈ words, w ≠ []) {b : List Char}
    (hb : b <:+ x) (hne : b ≠ []) :
    occurrenceAt? words before (b ++ y) = occurrenceAt? words before b := by
  obtain ⟨c, b, rfl⟩ := List.exists_cons_of_ne_nil hne
  have hbare : occurrenceBehind? words [] before (c :: b ++ y) =
      occurrenceBehind? words [] before (c :: b) := h.occurrenceBehind?_append hb hne
  by_cases hcomma : c = ','
  · subst hcomma
    have hsame : ∀ n ∈ (List.range ((b.takeWhile Text.isBlank).length + 1)).reverse,
        occurrenceBehind? words (',' :: (b ++ y).take n) before ((b ++ y).drop n) =
          occurrenceBehind? words (',' :: b.take n) before (b.drop n) := by
      intro n hn
      have hle : n ≤ b.length := by
        have := (List.takeWhile_sublist (l := b) Text.isBlank).length_le
        have := List.mem_range.mp (List.mem_reverse.mp hn)
        omega
      rw [List.take_append_of_le_length hle, List.drop_append_of_le_length hle]
      by_cases hrest : b.drop n = []
      · -- All the text behind the comma is blank, and a name would have to stand in the other text.
        have htake : b.take n = b := List.take_of_length_le (List.drop_eq_nil_iff.mp hrest)
        obtain ⟨front, rfl⟩ := hb
        have hlast : (',' :: b).getLast?.or before = (front ++ ',' :: b).getLast? := by
          rw [List.getLast?_append_of_ne_nil _ (by simp), List.getLast?_eq_some_getLast (by simp),
            Option.some_or]
        have hbegins := h.begins
        rw [← hlast] at hbegins
        rw [hrest, htake, List.nil_append, occurrenceBehind?, occurrenceBehind?, hbegins,
          wordAt?_nil hwords]
        rfl
      · have hsuffix : b.drop n <:+ x := (List.drop_suffix n b).trans
          ((List.suffix_cons ',' b).trans hb)
        exact h.occurrenceBehind?_append hsuffix hrest
    simp only [occurrenceAt?, List.cons_append] at hbare ⊢
    rw [h.takeWhile_append, hbare, ← List.head?_filterMap, ← List.head?_filterMap,
      List.filterMap_congr hsame]
  · rw [List.cons_append, occurrenceAt?_of_ne_comma hcomma, occurrenceAt?_of_ne_comma hcomma]
    exact hbare

end Apart

section Scan

variable {s : Substitution}

/-- The names of types and parameters. -/
def names (s : Substitution) : List String :=
  s.types.map (·.1) ++ s.parameters.map (·.name)

/-- What holds of the characters of `this` and of all names holds of all words that are found. -/
theorem forall_words {p : Char → Prop} (hthis : ∀ c ∈ "this".toList, p c)
    (hnames : ∀ name ∈ s.names, ∀ c ∈ name.toList, p c) :
    ∀ w ∈ s.words.map String.toList, ∀ c ∈ w, p c := by
  intro w hw
  obtain ⟨word, hword, rfl⟩ := List.mem_map.mp hw
  rcases (mem_words.mp hword).2 with ⟨rfl, -⟩ | hname
  · exact hthis
  · exact hnames word (List.mem_append.mpr hname)

theorem ne_nil_of_mem_words : ∀ w ∈ s.words.map String.toList, w ≠ [] := by
  intro w hw
  obtain ⟨word, hword, rfl⟩ := List.mem_map.mp hw
  simpa using (mem_words.mp hword).1

theorem length_of_finder {n : Nat} {replacement : List Char}
    (h : s.finder before text = some (n, replacement)) : 0 < n ∧ n ≤ text.length := by
  obtain ⟨o, ho, hpair⟩ := Option.map_eq_some_iff.mp h
  obtain ⟨rfl, -⟩ := Prod.mk.inj hpair
  exact length_of_occurrenceAt? ne_nil_of_mem_words ho

theorem finder_congr {text' : List Char}
    (h : occurrenceAt? (s.words.map String.toList) before text =
      occurrenceAt? (s.words.map String.toList) before' text') :
    s.finder before text = s.finder before' text' := by
  rw [finder, matcher, matcher, h]

/-- **A template comes apart.** The two parts are substituted one after the other. -/
theorem rewriteFrom_append_of_apart {x y : List Char}
    (h : Apart (s.words.map String.toList) x y) :
    Text.rewriteFrom s.finder before (x ++ y) =
      Text.rewriteFrom s.finder before x ++ Text.rewriteFrom s.finder (x.getLast?.or before) y := by
  refine Text.rewriteFrom_append (fun a b n r _ hfound => length_of_finder hfound) ?_
  intro a b hsplit hne
  exact finder_congr (h.occurrenceAt?_append ne_nil_of_mem_words ⟨a, hsplit.symm⟩ hne)

/-- What stands before a template matters only in so far as a word may reach up to it. -/
theorem rewriteFrom_congr (h : Text.isWordAt before = Text.isWordAt before') :
    Text.rewriteFrom s.finder before text = Text.rewriteFrom s.finder before' text :=
  Text.rewriteFrom_congr (finder_congr (occurrenceAt?_congr h))

theorem toList_apply (s : Substitution) (template : String) :
    (s.apply template).toList = Text.rewriteFrom s.finder none template.toList :=
  String.toList_ofList

end Scan

end Substitution

end CallMigration
