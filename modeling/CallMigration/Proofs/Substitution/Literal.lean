import CallMigration.Proofs.Substitution.Standing

/-!
# String literals in a template

A quotation mark is part of no name, so that a template comes apart there: what stands between two
quotation marks is substituted on its own, just like the text before and behind
(`Substitution.apply_quote`). So literals are no exception. A literal keeps its text if no name
stands in it as a word of its own, and this can be said of all names only if it holds no word
(`Substitution.apply_literal`).
-/

namespace CallMigration

namespace Substitution

variable {s : Substitution}

/-- Whether no name holds a quotation mark. -/
def AvoidsQuotes (s : Substitution) : Prop := ∀ name ∈ s.names, '"' ∉ name.toList

instance (s : Substitution) : Decidable s.AvoidsQuotes :=
  inferInstanceAs (Decidable (∀ name ∈ s.names, '"' ∉ name.toList))

theorem not_mem_of_avoidsQuotes (h : s.AvoidsQuotes) :
    ∀ w ∈ s.words.map String.toList, '"' ∉ w := by
  have hthis : "this".toList.all (· != '"') = true := by decide
  have hnames : ∀ name ∈ s.names, ∀ c ∈ name.toList, (c != '"') = true := by
    intro name hname c hc
    rw [bne_iff_ne]
    intro heq
    subst heq
    exact h name hname hc
  intro w hw hquote
  have hne := forall_words (List.all_eq_true.mp hthis) hnames w hw _ hquote
  simp at hne

/-- **A template comes apart at a quotation mark.** -/
theorem apply_quote (h : s.AvoidsQuotes) (front rest : String) :
    s.apply (front ++ "\"" ++ rest) = s.apply front ++ "\"" ++ s.apply rest := by
  have hnames := not_mem_of_avoidsQuotes h
  have hapart : Apart (s.words.map String.toList) front.toList ('"' :: rest.toList) :=
    .of_separator ne_nil_of_mem_words hnames (by decide) (by decide) (by decide) _ _
  have hmark : Text.rewriteFrom s.finder (front.toList.getLast?.or none) ('"' :: rest.toList) =
      '"' :: Text.rewriteFrom s.finder (some '"') rest.toList := by
    refine Text.rewriteFrom_plain (finder_eq_none ?_)
    have hnone : ∀ w ∈ s.words.map String.toList, w.head? ≠ some '"' :=
      fun w hw hhead => hnames w hw (List.mem_of_head? hhead)
    rw [occurrenceAt?_of_ne_comma (by decide), occurrenceBehind?,
      wordAt?_eq_none_of_head ne_nil_of_mem_words hnone, Option.map_none]
  have hbehind : Text.rewriteFrom s.finder (some '"') rest.toList =
      Text.rewriteFrom s.finder none rest.toList := rewriteFrom_congr (by decide)
  apply String.toList_inj.mp
  calc (s.apply (front ++ "\"" ++ rest)).toList
      = Text.rewriteFrom s.finder none (front.toList ++ '"' :: rest.toList) := by
        rw [toList_apply, String.toList_append, String.toList_append, List.append_assoc]
        rfl
    _ = Text.rewriteFrom s.finder none front.toList ++
          Text.rewriteFrom s.finder (front.toList.getLast?.or none) ('"' :: rest.toList) :=
        rewriteFrom_append_of_apart hapart
    _ = Text.rewriteFrom s.finder none front.toList ++
          '"' :: Text.rewriteFrom s.finder none rest.toList := by
        rw [hmark, hbehind]
    _ = (s.apply front ++ "\"" ++ s.apply rest).toList := by
        simp only [toList_apply, String.toList_append, List.append_assoc]
        rfl

/-- **Literals are substituted like the text around them.** Where no name holds a quotation mark,
the text between two quotation marks becomes what it becomes on its own, between the substituted
texts before and behind. It stays as it is if no name stands in it as a word of its own; and it does
so whatever the names are exactly if it holds no word character. -/
theorem apply_literal (front body rest : String) :
    (∀ s : Substitution, s.AvoidsQuotes →
      s.apply (front ++ "\"" ++ body ++ "\"" ++ rest) =
        s.apply front ++ "\"" ++ s.apply body ++ "\"" ++ s.apply rest ∧
      ((∀ name ∈ s.words, ¬ StandsIn none none name.toList body.toList) → s.apply body = body)) ∧
    ((∀ s : Substitution, s.AvoidsQuotes →
        s.apply (front ++ "\"" ++ body ++ "\"" ++ rest) =
          s.apply front ++ "\"" ++ body ++ "\"" ++ s.apply rest) ↔
      ∀ c ∈ body.toList, Text.isWordChar c = false) := by
  have hparts : ∀ s : Substitution, s.AvoidsQuotes →
      s.apply (front ++ "\"" ++ body ++ "\"" ++ rest) =
        s.apply front ++ "\"" ++ s.apply body ++ "\"" ++ s.apply rest := by
    intro s hquotes
    rw [apply_quote hquotes, apply_quote hquotes]
  refine ⟨fun s hquotes => ⟨hparts s hquotes, apply_of_not_standsIn⟩, ?_, ?_⟩
  · intro hkept
    by_contra hword
    push Not at hword
    obtain ⟨gap, run, after, hbody, hgap, hne, hrun, hafter⟩ :=
      exists_first_run (by simpa using hword)
    have hquotes : (marking (String.ofList run)).AvoidsQuotes := by
      intro name hname hquote
      obtain rfl : name = String.ofList run := by simpa [marking, names] using hname
      rw [String.toList_ofList] at hquote
      exact absurd (hrun _ hquote) (by decide)
    have hsame := (hparts _ hquotes).symm.trans (hkept _ hquotes)
    simp only [String.append_left_inj, String.append_right_inj] at hsame
    have hlist := congrArg String.toList hsame
    rw [toList_apply, hbody] at hlist
    exact rewriteFrom_marking_ne hgap hne hrun hafter hlist
  · intro hbody s hquotes
    rw [hparts s hquotes, apply_of_not_standsIn fun name _ => not_standsIn hbody]

/-- A parameter whose name is also the text of a literal. -/
def spelledOut : Substitution := ⟨none, [], [⟨"name", "x", false⟩]⟩

/-- The literal does not keep its text. -/
theorem literal_changed_spelledOut :
    spelledOut.apply ("Objects.requireNonNull(name, " ++ "\"" ++ "name" ++ "\"" ++ ")") ≠
      spelledOut.apply "Objects.requireNonNull(name, " ++ "\"" ++ "name" ++ "\"" ++
        spelledOut.apply ")" := by
  decide +kernel

/-- It becomes what the parameter stands for, while one without words is left alone. -/
theorem apply_literal_spelledOut :
    spelledOut.AvoidsQuotes ∧
      spelledOut.apply ("f(name, " ++ "\"" ++ "name" ++ "\"" ++ ")") = "f(x, \"x\")" ∧
      spelledOut.apply ("f(name, " ++ "\"" ++ " - " ++ "\"" ++ ")") = "f(x, \" - \")" := by
  have hquotes : spelledOut.AvoidsQuotes := by decide
  refine ⟨hquotes, ?_, ?_⟩
  · rw [((apply_literal _ _ _).1 spelledOut hquotes).1]
    decide +kernel
  · have hall : " - ".toList.all (!Text.isWordChar ·) = true := by decide
    have hnone : ∀ c ∈ " - ".toList, Text.isWordChar c = false := by
      simpa using List.all_eq_true.mp hall
    rw [(apply_literal _ _ _).2.mpr hnone spelledOut hquotes]
    decide +kernel

end Substitution

end CallMigration
