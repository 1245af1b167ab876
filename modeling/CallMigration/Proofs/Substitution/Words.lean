import CallMigration.Proofs.Substitution.Occurrence
import CallMigration.Proofs.Text.Scan
import Mathlib.Data.List.SplitBy

/-!
# Substitution word by word

A template is cut into its maximal runs of word characters and the texts between them. Substitution
is then said run by run: each becomes what it stands for, and the texts between them are copied,
save for a comma in front of a parameter of variable length that no argument is left for
(`Substitution.render`).

* `rewriteFrom_run`, `rewriteFrom_gap`: what the scan makes of a run, and of the text before one;
* `apply_eq_render`: the single scan over the template is that rendering of its runs.
-/

namespace CallMigration

namespace Substitution

/-- The maximal runs of word characters in a template and the texts between them. -/
def chunks (template : List Char) : List (List Char) :=
  template.splitBy fun a b => Text.isWordChar a == Text.isWordChar b

/-- What a run becomes, and whether a comma in front of it goes: `this` is the receiver if there is
one, then come the types and then, unless they are called, the parameters. -/
def standIn (s : Substitution) (run : List Char) (called : Bool) : List Char × Bool :=
  let word := String.ofList run
  match if word = "this" then s.receiver else none, s.types.find? (·.1 = word),
    s.parameters.find? (·.name = word) with
  | some receiver, _, _ => (receiver.toList, false)
  | none, some (_, spelling), _ => (spelling.toList, false)
  | none, none, some binding =>
      if called then (run, false) else (binding.value.toList, binding.emptyVarargs)
  | none, none, none => (run, false)

/-- A text without the comma and the blanks that it ends with, if it does so. -/
def dropComma (gap : List Char) : List Char :=
  match gap.reverse.dropWhile Text.isBlank with
  | ',' :: rest => rest.reverse
  | _ => gap

/-- Whether an opening parenthesis comes next. -/
def opens (following : List (List Char)) : Bool := (following.head?.bind List.head?) == some '('

/-- A text without words before some chunks, less the comma that the next run takes away. -/
def gapText (s : Substitution) (gap : List Char) : List (List Char) → List Char
  | [] => gap
  | run :: after => if (s.standIn run (opens after)).2 then dropComma gap else gap

/-- The chunks of a template with each run replaced by what it stands for. -/
def render (s : Substitution) : List (List Char) → List Char
  | [] => []
  | chunk :: rest =>
      (if Text.isWordAt chunk.head? then (s.standIn chunk (opens rest)).1
        else s.gapText chunk rest) ++ render s rest

section Chunks

/-- A stretch of word characters, or of others, that ends where the template does or changes over is
a chunk of its own. -/
theorem chunks_append {chunk rest : List Char} {k : Bool} (hne : chunk ≠ [])
    (hchunk : ∀ c ∈ chunk, Text.isWordChar c = k)
    (hrest : ∀ c ∈ rest.head?, Text.isWordChar c = !k) :
    chunks (chunk ++ rest) = chunk :: chunks rest := by
  unfold chunks
  rw [List.splitBy_append, List.splitBy_of_isChain hne]
  · rfl
  · apply List.Pairwise.isChain
    apply List.pairwise_of_forall_mem_list
    intro a ha b hb
    simp [hchunk a ha, hchunk b hb]
  · intro a ha b hb
    rw [hchunk a (List.mem_of_getLast? ha), hrest b hb]
    cases k <;> rfl

/-- A text that is not empty begins with a stretch of word characters, or of others, that is
followed by its end or by a change. -/
theorem exists_chunk {text : List Char} (hne : text ≠ []) :
    ∃ k chunk rest, text = chunk ++ rest ∧ chunk ≠ [] ∧ (∀ c ∈ chunk, Text.isWordChar c = k) ∧
      ∀ c ∈ rest.head?, Text.isWordChar c = !k := by
  cases text with
  | nil => exact absurd rfl hne
  | cons c text =>
      let same (d : Char) : Bool := Text.isWordChar d == Text.isWordChar c
      refine ⟨Text.isWordChar c, (c :: text).takeWhile same, (c :: text).dropWhile same,
        List.takeWhile_append_dropWhile.symm, by simp [same], ?_, ?_⟩
      · intro d hd
        simpa [same] using List.all_eq_true.mp List.all_takeWhile d hd
      · intro d hd
        have := List.head?_dropWhile_not same (c :: text)
        rw [hd] at this
        exact Bool.eq_not.mpr (by simpa [same] using this)

/-- A text that begins with a word character begins with a maximal run of these. -/
theorem exists_run {text : List Char} (hne : text ≠ [])
    (hword : ∀ c ∈ text.head?, Text.isWordChar c = true) :
    ∃ run rest, text = run ++ rest ∧ run ≠ [] ∧ Text.IsWord run ∧
      ∀ c ∈ rest.head?, Text.isWordChar c = false := by
  obtain ⟨k, run, rest, rfl, hrunne, hrun, hrest⟩ := exists_chunk hne
  obtain rfl : k = true := by
    rw [← hrun _ (List.head_mem hrunne)]
    apply hword
    rw [List.head?_append_of_ne_nil _ hrunne, List.head?_eq_some_head hrunne]
    rfl
  exact ⟨run, rest, rfl, hrunne, hrun, hrest⟩

/-- A template is read chunk by chunk: a run of word characters up to something else, or text
without word characters up to the next run. -/
theorem chunk_induction {motive : List Char → Prop} (nil : motive [])
    (run : ∀ run rest, run ≠ [] → Text.IsWord run → (∀ c ∈ rest.head?, Text.isWordChar c = false) →
      motive rest → motive (run ++ rest))
    (gap : ∀ gap rest, gap ≠ [] → (∀ c ∈ gap, Text.isWordChar c = false) →
      (∀ c ∈ rest.head?, Text.isWordChar c = true) → motive rest → motive (gap ++ rest))
    (template : List Char) : motive template := by
  induction hlength : template.length using Nat.strongRecOn generalizing template with
  | ind length ih =>
      by_cases hne : template = []
      · rw [hne]
        exact nil
      · obtain ⟨k, chunk, rest, rfl, hchunk, hall, hrest⟩ := exists_chunk hne
        have hshorter : rest.length < length := by
          have := List.length_pos_iff.mpr hchunk
          rw [← hlength, List.length_append]
          omega
        have hmotive := ih rest.length hshorter rest rfl
        cases k with
        | true => exact run chunk rest hchunk hall hrest hmotive
        | false => exact gap chunk rest hchunk hall hrest hmotive

end Chunks

section Names

variable {s : Substitution}

/-- Whether the names that have a meaning are made of word characters. -/
def NamesAreWords (s : Substitution) : Prop :=
  ∀ name ∈ s.types.map (·.1) ++ s.parameters.map (·.name), Text.IsWord name.toList

instance (s : Substitution) : Decidable s.NamesAreWords :=
  List.decidableBAll (fun name : String => Text.IsWord name.toList) _

theorem mem_words {word : String} :
    word ∈ s.words ↔ word ≠ "" ∧ ((word = "this" ∧ s.receiver.isSome) ∨
      word ∈ s.types.map (·.1) ∨ word ∈ s.parameters.map (·.name)) := by
  unfold words
  rw [(inOrder_perm _).mem_iff, List.mem_filter, List.mem_append, List.mem_append]
  split
  · next h => simp [h, and_comm, or_assoc]
  · next h => simp [h, and_comm]

theorem isWord_of_mem_words (hnames : s.NamesAreWords) :
    ∀ w ∈ s.words.map String.toList, Text.IsWord w ∧ w ≠ [] := by
  intro w hw
  obtain ⟨word, hword, rfl⟩ := List.mem_map.mp hw
  obtain ⟨hne, hname⟩ := mem_words.mp hword
  refine ⟨?_, by simpa using hne⟩
  rcases hname with ⟨rfl, -⟩ | hname
  · decide
  · exact hnames word (List.mem_append.mpr hname)

/-- A run that is no name stands for itself. -/
theorem standIn_of_not_mem {run : List Char} {called : Bool} (hne : run ≠ [])
    (h : run ∉ s.words.map String.toList) : s.standIn run called = (run, false) := by
  have hword : String.ofList run ∉ s.words := by
    intro hmem
    exact h (List.mem_map.mpr ⟨_, hmem, String.toList_ofList⟩)
  have hempty : String.ofList run ≠ "" := by simpa using hne
  rw [mem_words] at hword
  simp only [hempty, ne_eq, not_false_eq_true, true_and, not_or, not_and, List.mem_map,
    not_exists] at hword
  obtain ⟨hthis, htypes, hparameters⟩ := hword
  have hreceiver : (if String.ofList run = "this" then s.receiver else none) = none := by
    split
    · next h => simpa using hthis h
    · rfl
  have htype : s.types.find? (·.1 = String.ofList run) = none := by
    rw [List.find?_eq_none]
    intro t ht heq
    exact htypes t ht (by simpa using heq)
  have hparameter : s.parameters.find? (·.name = String.ofList run) = none := by
    rw [List.find?_eq_none]
    intro b hb heq
    exact hparameters b hb (by simpa using heq)
  simp only [standIn, hreceiver, htype, hparameter]

/-- What is written for a name is what the run stands for, behind its comma unless that goes. -/
theorem replacement_eq {comma run : List Char} {called : Bool} :
    s.replacement ⟨comma, run, called⟩ =
      (if (s.standIn run called).2 then [] else comma) ++ (s.standIn run called).1 := by
  unfold replacement meaning? standIn
  cases hreceiver : (if String.ofList run = "this" then s.receiver else none) with
  | some receiver => simp [hreceiver]
  | none =>
      cases htype : s.types.find? (·.1 = String.ofList run) with
      | some type => simp [hreceiver, htype]
      | none =>
          cases hparameter : s.parameters.find? (·.name = String.ofList run) with
          | some binding => cases called <;> simp [hreceiver, htype, hparameter]
          | none => simp [hreceiver, htype, hparameter]

end Names

section Gaps

/-- Whether a text is a comma and blanks behind it. -/
def IsComma (text : List Char) : Prop :=
  ∃ blanks, text = ',' :: blanks ∧ ∀ c ∈ blanks, Text.isBlank c = true

theorem IsComma.ne_nil {comma : List Char} (h : IsComma comma) : comma ≠ [] := by
  obtain ⟨blanks, rfl, -⟩ := h
  exact List.cons_ne_nil _ _

theorem IsComma.isWordChar {comma : List Char} (h : IsComma comma) :
    ∀ c ∈ comma, Text.isWordChar c = false := by
  obtain ⟨blanks, rfl, hblanks⟩ := h
  exact List.forall_mem_cons.mpr
    ⟨by decide, fun c hc => Text.isWordChar_of_isBlank (hblanks c hc)⟩

/-- Text that ends in a comma and blanks is cut off before the comma; other text is left as it is,
and none of its commas is followed by blanks alone. -/
theorem dropComma_cases (gap : List Char) :
    (∃ front blanks, gap = front ++ ',' :: blanks ∧ (∀ c ∈ blanks, Text.isBlank c = true) ∧
        dropComma gap = front) ∨
      (dropComma gap = gap ∧
        ∀ a b, gap = a ++ ',' :: b → ∃ c ∈ b, Text.isBlank c = false) := by
  unfold dropComma
  have hparts : gap = (gap.reverse.dropWhile Text.isBlank).reverse ++
      (gap.reverse.takeWhile Text.isBlank).reverse := by
    rw [← List.reverse_append, List.takeWhile_append_dropWhile, List.reverse_reverse]
  split
  · next front hfront =>
      left
      refine ⟨front.reverse, (gap.reverse.takeWhile Text.isBlank).reverse, ?_, ?_, rfl⟩
      · rw [hfront] at hparts
        simpa using hparts
      · intro c hc
        exact List.all_eq_true.mp List.all_takeWhile c (List.mem_reverse.mp hc)
  · next hother =>
      right
      refine ⟨rfl, ?_⟩
      intro a b hsplit
      by_contra hnone
      have hblank : ∀ c ∈ b.reverse, Text.isBlank c = true := by
        intro c hc
        by_contra hc'
        exact hnone ⟨c, List.mem_reverse.mp hc, by simpa using hc'⟩
      apply hother a.reverse
      rw [hsplit, List.reverse_append, List.reverse_cons, List.append_assoc,
        List.dropWhile_append_of_pos hblank]
      rfl

/-- Text without words, in which something is not blank, shows no word behind its first blanks. -/
theorem isWordAt_dropWhile_append {gap rest : List Char}
    (hgap : ∀ c ∈ gap, Text.isWordChar c = false) (hsolid : ∃ c ∈ gap, Text.isBlank c = false) :
    Text.isWordAt ((gap ++ rest).dropWhile Text.isBlank).head? = false := by
  induction gap with
  | nil => simp at hsolid
  | cons c gap ih =>
      by_cases hc : Text.isBlank c = true
      · rw [List.cons_append, List.dropWhile_cons_of_pos hc]
        apply ih fun d hd => hgap d (List.mem_cons_of_mem c hd)
        obtain ⟨d, hd, hsolid⟩ := hsolid
        rcases List.mem_cons.mp hd with rfl | hd
        · rw [hc] at hsolid
          cases hsolid
        · exact ⟨d, hd, hsolid⟩
      · rw [List.cons_append, List.dropWhile_cons_of_neg hc]
        exact hgap c (by simp)

end Gaps

section Scan

variable {s : Substitution} {before : Option Char}

/-- How the scan finds the names of a substitution. -/
def finder (s : Substitution) : Text.Matcher (List Char) := s.matcher (s.words.map String.toList)

theorem finder_eq_none {text : List Char}
    (h : occurrenceAt? (s.words.map String.toList) before text = none) :
    s.finder before text = none := by
  rw [finder, matcher, h, Option.map_none]

theorem finder_eq_some {text comma run : List Char} {called : Bool}
    (h : occurrenceAt? (s.words.map String.toList) before text = some ⟨comma, run, called⟩) :
    s.finder before text = some ((comma ++ run).length,
      (if (s.standIn run called).2 then [] else comma) ++ (s.standIn run called).1) := by
  rw [finder, matcher, h, Option.map_some, replacement_eq, List.length_append]

/-- **A run is replaced by what it stands for.** -/
theorem rewriteFrom_run (hnames : s.NamesAreWords) {run rest : List Char} (hne : run ≠ [])
    (hrun : Text.IsWord run) (hbefore : Text.isWordAt before = false)
    (hrest : Text.isWordAt rest.head? = false) :
    Text.rewriteFrom s.finder before (run ++ rest) =
      (s.standIn run (rest.head? == some '(')).1 ++
        Text.rewriteFrom s.finder run.getLast? rest := by
  have hwords := isWord_of_mem_words hnames
  have hfound := occurrenceAt?_run hwords hrun hne hbefore hrest
  by_cases hmem : run ∈ s.words.map String.toList
  · rw [if_pos hmem] at hfound
    have := finder_eq_some hfound
    rw [List.nil_append, ite_self, List.nil_append] at this
    exact Text.rewriteFrom_found hne this
  · rw [standIn_of_not_mem hne hmem, ← Text.getLast?_or_of_ne_nil hne before]
    apply Text.rewriteFrom_copy
    intro a c b hsplit
    apply finder_eq_none
    cases a with
    | nil =>
        rw [if_neg hmem, hsplit] at hfound
        exact hfound
    | cons d a =>
        rw [hsplit] at hrun
        have hfront : Text.IsWord (d :: a) := fun e he => hrun e (List.mem_append_left _ he)
        exact occurrenceAt?_inside (hfront.isWordAt_getLast? (by simp) before) (hrun c (by simp))

/-- Text without words is copied up to where a comma has a word behind it. -/
theorem rewriteFrom_copy_gap (hnames : s.NamesAreWords) {gap rest : List Char}
    (hgap : ∀ c ∈ gap, Text.isWordChar c = false)
    (hcommas : ∀ a b, gap = a ++ ',' :: b →
      Text.isWordAt ((b ++ rest).dropWhile Text.isBlank).head? = false) :
    Text.rewriteFrom s.finder before (gap ++ rest) =
      gap ++ Text.rewriteFrom s.finder (gap.getLast?.or before) rest := by
  apply Text.rewriteFrom_copy
  intro a c b hsplit
  apply finder_eq_none
  apply occurrenceAt?_gap (isWord_of_mem_words hnames) (hgap c (by simp [hsplit]))
  intro heq
  subst heq
  exact hcommas a b hsplit

/-- What the scan makes of a comma and blanks with a run behind them. -/
theorem rewriteFrom_comma (hnames : s.NamesAreWords) {blanks run rest : List Char} (hne : run ≠ [])
    (hblanks : ∀ c ∈ blanks, Text.isBlank c = true) (hrun : Text.IsWord run)
    (hrest : Text.isWordAt rest.head? = false) :
    Text.rewriteFrom s.finder before (',' :: blanks ++ (run ++ rest)) =
      (if (s.standIn run (rest.head? == some '(')).2 then [] else ',' :: blanks) ++
        ((s.standIn run (rest.head? == some '(')).1 ++
          Text.rewriteFrom s.finder run.getLast? rest) := by
  have hwords := isWord_of_mem_words hnames
  have hcomma : IsComma (',' :: blanks) := ⟨blanks, rfl, hblanks⟩
  have hbehind : Text.isWordAt ((',' :: blanks).getLast?.or before) = false :=
    Text.isWordAt_getLast?_of_forall hcomma.ne_nil hcomma.isWordChar before
  have hhead : (run ++ rest).head?.any Text.isBlank = false := by
    have := hrun.isWordAt_head? hne rest
    cases hc : (run ++ rest).head? with
    | none => rfl
    | some c =>
        rw [hc] at this
        by_contra hblank
        have := Text.isWordChar_of_isBlank (c := c) (by simpa using hblank)
        simp_all [Text.isWordAt]
  have hfound : occurrenceAt? (s.words.map String.toList) before (',' :: (blanks ++ (run ++ rest))) =
      occurrenceBehind? (s.words.map String.toList) (',' :: blanks) before (run ++ rest) :=
    occurrenceAt?_comma hwords hblanks hhead
  rw [occurrenceBehind?_run hwords hrun hne hbehind hrest] at hfound
  by_cases hmem : run ∈ s.words.map String.toList
  · rw [if_pos hmem] at hfound
    have hlast : (',' :: blanks ++ run).getLast? = run.getLast? := by
      rw [List.getLast?_append, Text.getLast?_or_of_ne_nil hne]
    rw [← List.append_assoc, Text.rewriteFrom_found (by simp)
      (by simpa using finder_eq_some hfound), hlast, List.append_assoc]
  · rw [if_neg hmem] at hfound
    have hcopy : Text.rewriteFrom s.finder (some ',') (blanks ++ (run ++ rest)) =
        blanks ++ Text.rewriteFrom s.finder (blanks.getLast?.or (some ',')) (run ++ rest) := by
      apply rewriteFrom_copy_gap hnames fun c hc => Text.isWordChar_of_isBlank (hblanks c hc)
      intro a b hsplit
      exact absurd (hblanks ',' (by simp [hsplit])) (by decide)
    rw [Text.getLast?_cons_or] at hbehind
    rw [List.cons_append, Text.rewriteFrom_plain (finder_eq_none hfound), hcopy,
      rewriteFrom_run hnames hne hrun hbehind hrest, standIn_of_not_mem hne hmem]
    simp

/-- **A comma goes with the parameter behind it.** Text before a run is copied, less a comma at its
end where the run takes that away. -/
theorem rewriteFrom_gap (hnames : s.NamesAreWords) {gap run rest : List Char} (hgapne : gap ≠ [])
    (hgap : ∀ c ∈ gap, Text.isWordChar c = false) (hne : run ≠ []) (hrun : Text.IsWord run)
    (hrest : Text.isWordAt rest.head? = false) :
    Text.rewriteFrom s.finder before (gap ++ (run ++ rest)) =
      (if (s.standIn run (rest.head? == some '(')).2 then dropComma gap else gap) ++
        ((s.standIn run (rest.head? == some '(')).1 ++
          Text.rewriteFrom s.finder run.getLast? rest) := by
  rcases dropComma_cases gap with ⟨front, blanks, rfl, hblanks, hdrop⟩ | ⟨hdrop, hsolid⟩
  · have hcopy : Text.rewriteFrom s.finder before (front ++ (',' :: blanks ++ (run ++ rest))) =
        front ++ Text.rewriteFrom s.finder (front.getLast?.or before)
          (',' :: blanks ++ (run ++ rest)) := by
      apply rewriteFrom_copy_gap hnames fun c hc => hgap c (List.mem_append_left _ hc)
      intro a b hsplit
      subst hsplit
      have hfront : ∀ c ∈ b ++ [','], Text.isWordChar c = false := by
        intro c hc
        rcases List.mem_append.mp hc with hc | hc
        · exact hgap c (by simp [hc])
        · exact hgap c (by simp [List.mem_singleton.mp hc])
      have hcomma : Text.isWordAt (((b ++ [',']) ++ (blanks ++ (run ++ rest))).dropWhile
          Text.isBlank).head? = false :=
        isWordAt_dropWhile_append hfront ⟨',', by simp, by decide⟩
      simpa using hcomma
    rw [List.append_assoc, hcopy, rewriteFrom_comma hnames hne hblanks hrun hrest, hdrop]
    split <;> simp
  · have hlast : Text.isWordAt (gap.getLast?.or before) = false :=
      Text.isWordAt_getLast?_of_forall hgapne hgap before
    have hcopy : Text.rewriteFrom s.finder before (gap ++ (run ++ rest)) =
        gap ++ Text.rewriteFrom s.finder (gap.getLast?.or before) (run ++ rest) := by
      apply rewriteFrom_copy_gap hnames hgap
      intro a b hsplit
      exact isWordAt_dropWhile_append (fun c hc => hgap c (by simp [hsplit, hc]))
        (hsolid a b hsplit)
    rw [hcopy, hdrop, ite_self, rewriteFrom_run hnames hne hrun hlast hrest]

/-- What comes next is seen in the chunks as it is in the text. -/
theorem opens_chunks (rest : List Char) : opens (chunks rest) = (rest.head? == some '(') := by
  by_cases hne : rest = []
  · simp [hne, chunks, opens]
  · obtain ⟨k, chunk, after, rfl, hchunk, hall, hafter⟩ := exists_chunk hne
    rw [chunks_append hchunk hall hafter, opens, List.head?_cons, Option.bind_some,
      List.head?_append_of_ne_nil _ hchunk]

theorem isWordAt_head?_of_forall {rest : List Char}
    (h : ∀ c ∈ rest.head?, Text.isWordChar c = false) : Text.isWordAt rest.head? = false := by
  cases hc : rest.head? with
  | none => rfl
  | some c => exact h c hc

/-- From the beginning of a run or of a text between runs, the scan renders the chunks. -/
theorem rewriteFrom_eq_render (hnames : s.NamesAreWords) (template : List Char)
    (hbefore : Text.isWordAt before = false ∨ Text.isWordAt template.head? = false) :
    Text.rewriteFrom s.finder before template = s.render (chunks template) := by
  induction template using chunk_induction generalizing before with
  | nil => rfl
  | run run rest hne hrun hrest ih =>
      have hhead := hrun.isWordAt_head? hne rest
      have hfront : Text.isWordAt before = false := by
        rcases hbefore with h | h
        · exact h
        · rw [hhead] at h
          cases h
      have hend := isWordAt_head?_of_forall hrest
      have hself := hrun.isWordAt_head? hne []
      rw [List.append_nil] at hself
      rw [rewriteFrom_run hnames hne hrun hfront hend, ih (Or.inr hend),
        chunks_append hne hrun hrest, render, if_pos hself, opens_chunks]
  | gap gap rest hne hgap hrest ih =>
      have hself : Text.isWordAt gap.head? = false := by
        rw [List.head?_eq_some_head hne]
        exact hgap _ (List.head_mem hne)
      have hlast : Text.isWordAt (gap.getLast?.or before) = false :=
        Text.isWordAt_getLast?_of_forall hne hgap before
      rw [chunks_append hne hgap hrest, render, hself]
      by_cases hend : rest = []
      · subst hend
        have hcopy : Text.rewriteFrom s.finder before (gap ++ []) =
            gap ++ Text.rewriteFrom s.finder (gap.getLast?.or before) [] := by
          apply rewriteFrom_copy_gap hnames hgap
          intro a b hsplit
          subst hsplit
          cases hc : ((b ++ []).dropWhile Text.isBlank).head? with
          | none => rfl
          | some c =>
              have hmem := (List.dropWhile_sublist _).subset (List.mem_of_head? hc)
              rw [List.append_nil] at hmem
              exact hgap c (List.mem_append_right a (List.mem_cons_of_mem ',' hmem))
        simpa [chunks, gapText, render] using hcopy
      · -- The run behind decides on the comma, so the text before it is rewritten together with it.
        obtain ⟨run, after, rfl, hrunne, hrun, hafter⟩ := exists_run hend hrest
        have hstop := isWordAt_head?_of_forall hafter
        have hrender := ih (Or.inl hlast)
        rw [rewriteFrom_run hnames hrunne hrun hlast hstop] at hrender
        rw [rewriteFrom_gap hnames hne hgap hrunne hrun hstop, hrender,
          chunks_append hrunne hrun hafter, gapText, opens_chunks]
        rfl

/-- **Substitution is word by word.** Where names are made of word characters, the single scan over
a template replaces its maximal runs of word characters by what they stand for, and nothing else. -/
theorem apply_eq_render (s : Substitution) (template : String) (hnames : s.NamesAreWords) :
    s.apply template = String.ofList (s.render (chunks template.toList)) := by
  unfold apply
  rw [Text.replaceMatches_eq_rewriteFrom]
  exact congrArg String.ofList (rewriteFrom_eq_render hnames template.toList (Or.inl rfl))

/-- A type, the receiver, a parameter whose value spells a type, one that is called like a method,
and one of variable length that no argument is left for. -/
theorem apply_eq_render_at_call :
    NamesAreWords ⟨some "list", [("Foo", "lib.Foo")],
        [⟨"lib", "Foo", false⟩, ⟨"list", "x", false⟩, ⟨"rest", "", true⟩]⟩ ∧
      (⟨some "list", [("Foo", "lib.Foo")],
        [⟨"lib", "Foo", false⟩, ⟨"list", "x", false⟩, ⟨"rest", "", true⟩]⟩ : Substitution).apply
        "Foo.of(this, lib, list(list),  rest)" = "lib.Foo.of(list, Foo, list(x))" := by
  have hnames : NamesAreWords ⟨some "list", [("Foo", "lib.Foo")],
      [⟨"lib", "Foo", false⟩, ⟨"list", "x", false⟩, ⟨"rest", "", true⟩]⟩ := by
    have hall : ["Foo", "lib", "list", "rest"].all (·.toList.all Text.isWordChar) = true := by
      decide
    intro name hname
    exact List.all_eq_true.mp (List.all_eq_true.mp hall name hname)
  refine ⟨hnames, ?_⟩
  rw [apply_eq_render _ _ hnames]
  decide +kernel

end Scan

end Substitution

end CallMigration
