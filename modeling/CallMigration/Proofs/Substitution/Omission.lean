import CallMigration.Proofs.Substitution.Separation

/-!
# Templates of which nothing is left

A parameter of variable length that no argument is left for becomes the empty text. Where it is the
only name that does so (`Substitution.LeavesOut`), nothing is left of a template only if the
template consists of that parameter alone, or of its repetitions with commas between them
(`LeavesOut.leavesNothing`). Where names are words, nothing is left of every such template
(`LeavesNothing.apply_eq_empty`).
-/

namespace CallMigration

namespace Substitution

variable {s : Substitution} {name : String} {before : Option Char} {text : List Char}

section Shape

/-- Repetitions of a name, each behind a comma. -/
inductive Repeats (name : List Char) : List Char → Prop
  | nil : Repeats name []
  | cons {comma rest : List Char} (hcomma : IsComma comma) (h : Repeats name rest) :
      Repeats name (comma ++ (name ++ rest))

/-- Whether a text is a name with its repetitions, and perhaps a comma in front of it. -/
def IsAlone (name text : List Char) : Prop :=
  ∃ comma rest, text = comma ++ (name ++ rest) ∧ (comma = [] ∨ IsComma comma) ∧ Repeats name rest

/-- Behind a name comes the end of the text, or a comma. -/
theorem Repeats.next {name rest : List Char} (h : Repeats name rest) :
    Text.isWordAt rest.head? = false ∧ (rest.head? == some '(') = false := by
  cases h with
  | nil => decide
  | cons hcomma h =>
      obtain ⟨blanks, rfl, -⟩ := hcomma
      exact ⟨show Text.isWordChar ',' = false by decide, rfl⟩

end Shape

section Meaning

/-- A meaning comes from the receiver, from a type of that name or from a parameter of that name. -/
theorem exists_of_meaning? {word : String} {meaning : Meaning}
    (h : s.meaning? word = some meaning) :
    (∃ receiver, s.receiver = some receiver ∧ meaning = .literal receiver) ∨
      (∃ type ∈ s.types, type.1 = word ∧ meaning = .literal type.2) ∨
        ∃ b ∈ s.parameters, b.name = word ∧ meaning = .parameter b := by
  unfold meaning? at h
  split at h
  · next receiver hreceiver =>
      refine Or.inl ⟨receiver, ?_, (Option.some.inj h).symm⟩
      split at hreceiver
      · exact hreceiver
      · cases hreceiver
  · split at h
    · next simple spelling hfind =>
        exact Or.inr (Or.inl ⟨_, List.mem_of_find?_eq_some hfind,
          by simpa using List.find?_some hfind, (Option.some.inj h).symm⟩)
    · obtain ⟨b, hfind, rfl⟩ := Option.map_eq_some_iff.mp h
      exact Or.inr (Or.inr ⟨b, List.mem_of_find?_eq_some hfind,
        by simpa using List.find?_some hfind, rfl⟩)

/-- What a run stands for is its meaning, where that is a parameter that is not called. -/
theorem standIn_of_meaning? {b : Binding} (h : s.meaning? name = some (.parameter b)) :
    s.standIn name.toList false = (b.value.toList, b.emptyVarargs) := by
  unfold meaning? at h
  unfold standIn
  rw [String.ofList_toList]
  cases hreceiver : (if name = "this" then s.receiver else none) with
  | some receiver => simp [hreceiver] at h
  | none =>
      cases htype : s.types.find? (·.1 = name) with
      | some type => simp [hreceiver, htype] at h
      | none =>
          cases hparameter : s.parameters.find? (·.name = name) with
          | none => simp [hreceiver, htype, hparameter] at h
          | some binding =>
              obtain rfl : binding = b := by simpa [hreceiver, htype, hparameter] using h
              simp [hreceiver, htype, hparameter]

/-- A name that means a parameter is one of the names. -/
theorem isWord_of_meaning? {b : Binding} (hnames : s.NamesAreWords)
    (h : s.meaning? name = some (.parameter b)) : Text.IsWord name.toList := by
  rcases exists_of_meaning? h with ⟨_, -, hliteral⟩ | ⟨_, -, -, hliteral⟩ | ⟨b', hb', rfl, -⟩
  · cases hliteral
  · cases hliteral
  · exact hnames _ (List.mem_append_right _ (List.mem_map_of_mem hb'))

/-- Whether nothing stands for the empty text but one parameter that no argument is left for. -/
structure LeavesOut (s : Substitution) (name : String) : Prop where
  receiver : s.receiver ≠ some ""
  types : ∀ type ∈ s.types, type.1 ≠ "" → type.2 ≠ ""
  parameters : ∀ b ∈ s.parameters, b.value = "" → b = ⟨name, "", true⟩

/-- Only that parameter is replaced by nothing. -/
theorem LeavesOut.eq_of_replacement (hs : s.LeavesOut name) {o : Occurrence} (hne : o.word ≠ [])
    (h : s.replacement o = []) :
    o.word = name.toList ∧ s.meaning? name = some (.parameter ⟨name, "", true⟩) := by
  have hword : String.ofList o.word ≠ "" := by simpa using hne
  unfold replacement at h
  cases hmeaning : s.meaning? (String.ofList o.word) with
  | none => simp [hmeaning, hne] at h
  | some meaning =>
      rcases exists_of_meaning? hmeaning with ⟨receiver, hreceiver, rfl⟩ |
        ⟨type, htype, hsimple, rfl⟩ | ⟨b, hb, hname, rfl⟩
      · have hempty : receiver = "" := by simp_all
        exact absurd (hempty ▸ hreceiver) hs.receiver
      · have hempty : type.2 = "" := by simp_all
        exact absurd hempty (hs.types type htype (hsimple ▸ hword))
      · cases hcalled : o.called with
        | true => simp [hmeaning, hcalled, hne] at h
        | false =>
            have hempty : b.value = "" := by simp_all
            obtain rfl := hs.parameters b hb hempty
            obtain rfl : name = String.ofList o.word := hname
            exact ⟨String.toList_ofList.symm, hmeaning⟩

end Meaning

section Omission

/-- Where nothing is left of a text, something is found at its beginning, and it goes together with
all the rest. -/
theorem exists_first_of_eq_nil (h : Text.rewriteFrom s.finder before text = [])
    (hne : text ≠ []) :
    ∃ o rest, text = o.comma ++ (o.word ++ rest) ∧ (o.comma = [] ∨ IsComma o.comma) ∧
      o.word ≠ [] ∧
      Text.isWordBoundary (o.comma.getLast?.or before) o.word.head? = true ∧
      Text.isWordBoundary o.word.getLast? rest.head? = true ∧ s.replacement o = [] ∧
      Text.rewriteFrom s.finder o.word.getLast? rest = [] := by
  obtain ⟨c, text, rfl⟩ := List.exists_cons_of_ne_nil hne
  cases hfound : occurrenceAt? (s.words.map String.toList) before (c :: text) with
  | none =>
      rw [Text.rewriteFrom_plain (finder_eq_none hfound)] at h
      cases h
  | some o =>
      obtain ⟨hcomma, behind, hbehind, hword⟩ := occurrenceAt?_eq_some hfound
      obtain ⟨hmem, rest, rfl, hbegins, hends⟩ := wordAt?_eq_some hword
      have hwordne := ne_nil_of_mem_words o.word hmem
      have hlast : (o.comma ++ o.word).getLast? = o.word.getLast? := by
        rw [List.getLast?_append_of_ne_nil _ hwordne]
      have hfinder : s.finder before (o.comma ++ o.word ++ rest) =
          some ((o.comma ++ o.word).length, s.replacement o) := by
        rw [List.append_assoc, ← hbehind, finder, matcher, hfound, Option.map_some,
          List.length_append]
      rw [hbehind, ← List.append_assoc, Text.rewriteFrom_found (by simp [hwordne]) hfinder, hlast,
        List.append_eq_nil_iff] at h
      rw [List.head?_append_of_ne_nil _ hwordne] at hbegins
      rw [Text.getLast?_or_of_ne_nil hwordne] at hends
      exact ⟨o, rest, hbehind, hcomma, hwordne, hbegins, hends, h.1, h.2⟩

/-- Where nothing is left of a text, it repeats the name that is left out. The repetitions have
commas between them: a name that ends in a word character does not end where the next one begins. -/
theorem repeats_of_eq_nil (hs : s.LeavesOut name) (hfirst : Text.isWordAt name.toList.head? = true)
    (h : Text.rewriteFrom s.finder before text = []) (hne : text ≠ []) :
    Text.isWordAt name.toList.getLast? = true ∧
      ∃ comma rest, text = comma ++ (name.toList ++ rest) ∧
        (comma = [] ∧ Text.isWordAt before = false ∨ IsComma comma) ∧ Repeats name.toList rest := by
  induction hlength : text.length using Nat.strongRecOn generalizing text before with
  | ind length ih =>
      obtain ⟨o, rest, rfl, hcomma, hwordne, hbegins, hends, hwritten, hrest⟩ :=
        exists_first_of_eq_nil h hne
      obtain ⟨hword, -⟩ := hs.eq_of_replacement hwordne hwritten
      rw [hword] at hbegins hends hrest
      have hfront : o.comma = [] ∧ Text.isWordAt before = false ∨ IsComma o.comma := by
        refine hcomma.imp_left fun hnil => ⟨hnil, ?_⟩
        rw [hnil, List.getLast?_nil, Option.none_or, Text.isWordBoundary, hfirst] at hbegins
        simpa using hbegins
      by_cases hend : rest = []
      · subst hend
        refine ⟨?_, o.comma, [], by rw [hword], hfront, Repeats.nil⟩
        simpa [Text.isWordBoundary, Text.isWordAt] using hends
      · have hshorter : rest.length < length := by
          have := List.length_pos_iff.mpr hwordne
          rw [← hlength, List.length_append, List.length_append]
          omega
        obtain ⟨hlast, comma, after, rfl, hbehind, hafter⟩ :=
          ih rest.length hshorter hrest hend rfl
        refine ⟨hlast, o.comma, _, by rw [hword], hfront, ?_⟩
        rcases hbehind with ⟨-, hnot⟩ | hbehind
        · rw [hlast] at hnot
          cases hnot
        · exact Repeats.cons hbehind hafter

/-- Whether a template consists of one parameter alone that no argument is left for. -/
structure LeavesNothing (s : Substitution) (name template : String) : Prop where
  begins : Text.isWordAt name.toList.head? = true
  meaning : s.meaning? name = some (.parameter ⟨name, "", true⟩)
  alone : IsAlone name.toList template.toList

/-- **Where nothing is left, nothing was there but the parameter that is left out.** -/
theorem LeavesOut.leavesNothing (hs : s.LeavesOut name) {template : String}
    (hne : template ≠ "") (h : s.apply template = "") : s.LeavesNothing name template := by
  have hnil : Text.rewriteFrom s.finder none template.toList = [] := by
    rw [← toList_apply, h]
    rfl
  have htext : template.toList ≠ [] := by simpa using hne
  obtain ⟨o, rest, -, hfront, hwordne, hbegins, -, hwritten, -⟩ :=
    exists_first_of_eq_nil hnil htext
  obtain ⟨hword, hmeaning⟩ := hs.eq_of_replacement hwordne hwritten
  rw [hword] at hwordne hbegins
  -- In front of the first repetition there is nothing, or a comma with blanks.
  have hbefore : Text.isWordAt (o.comma.getLast?.or none) = false := by
    rcases hfront with hnone | hcomma
    · rw [hnone]
      rfl
    · exact Text.isWordAt_getLast?_of_forall hcomma.ne_nil hcomma.isWordChar none
  have hfirst : Text.isWordAt name.toList.head? = true := by
    rw [Text.isWordBoundary, hbefore] at hbegins
    simpa using hbegins
  obtain ⟨-, comma, rest, hsplit, hcomma, hrest⟩ := repeats_of_eq_nil hs hfirst hnil htext
  exact ⟨hfirst, hmeaning, comma, rest, hsplit, hcomma.imp_left And.left, hrest⟩

/-- What nothing is left of begins with a comma or with a word. -/
theorem LeavesNothing.isWordAt_head? {template : String} (h : s.LeavesNothing name template) :
    template.toList.head? = some ',' ∨ Text.isWordAt template.toList.head? = true := by
  obtain ⟨comma, rest, hsplit, hcomma, -⟩ := h.alone
  rw [hsplit]
  rcases hcomma with rfl | ⟨blanks, rfl, -⟩
  · right
    rw [List.nil_append, List.head?_append_of_ne_nil _ (Text.ne_nil_of_isWordAt_head? h.begins)]
    exact h.begins
  · exact Or.inl rfl

/-- Where names are words, nothing is left of the repetitions of the parameter that is left out. -/
theorem rewriteFrom_repeats (hnames : s.NamesAreWords) (hne : name.toList ≠ [])
    (hmeaning : s.meaning? name = some (.parameter ⟨name, "", true⟩))
    (h : Repeats name.toList text) : Text.rewriteFrom s.finder before text = [] := by
  induction h generalizing before with
  | nil => rfl
  | cons hcomma hrest ih =>
      obtain ⟨blanks, rfl, hblanks⟩ := hcomma
      obtain ⟨hend, hopen⟩ := hrest.next
      rw [rewriteFrom_comma hnames hne hblanks
        (isWord_of_meaning? hnames hmeaning) hend, hopen, standIn_of_meaning? hmeaning, ih]
      rfl

/-- **Where names are words, nothing is left of a parameter alone that is left out.** -/
theorem LeavesNothing.apply_eq_empty {template : String} (h : s.LeavesNothing name template)
    (hnames : s.NamesAreWords) : s.apply template = "" := by
  obtain ⟨hbegins, hmeaning, comma, rest, hsplit, hcomma, hrest⟩ := h
  have hne := Text.ne_nil_of_isWordAt_head? hbegins
  apply String.toList_inj.mp
  rw [toList_apply, hsplit]
  rcases hcomma with rfl | hcomma
  · obtain ⟨hend, hopen⟩ := hrest.next
    rw [List.nil_append, rewriteFrom_run hnames hne (isWord_of_meaning? hnames hmeaning) rfl hend,
      hopen, standIn_of_meaning? hmeaning, rewriteFrom_repeats hnames hne hmeaning hrest]
    rfl
  · exact rewriteFrom_repeats hnames hne hmeaning (Repeats.cons hcomma hrest)

end Omission

end Substitution

end CallMigration
