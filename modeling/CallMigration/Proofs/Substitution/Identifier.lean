import CallMigration.Expression
import CallMigration.Proofs.Substitution.Standing

/-!
# Identifiers in a template

A template is cut into words by word boundaries, but an identifier may hold characters that are none
of a word, such as a dollar sign. So a name can stand in a longer identifier as a word of its own,
and is replaced there. An identifier in which no name stands like this is left as it is, and
substitution goes on behind it as if nothing had been there (`Substitution.apply_of_isNameRun`).
That all names but the identifier itself leave it alone can be said exactly where it holds no word
boundary (`Substitution.apply_name_run`).
-/

namespace CallMigration

namespace Expression

/-- Blank characters are no part of a name. -/
theorem isBlank_of_isNamePart {c : Char} (h : isNamePart c = true) : Text.isBlank c = false := by
  by_contra hblank
  have hnot : (!isNamePart c) = true :=
    Text.forall_isBlank (p := fun c => !isNamePart c) (by decide +kernel) (by decide +kernel)
      (by simpa using hblank)
  rw [h] at hnot
  cases hnot

end Expression

namespace Substitution

/-- Whether the names that have a meaning are made of characters of names. -/
def NamesAreNameParts (s : Substitution) : Prop :=
  ∀ name ∈ s.names, ∀ c ∈ name.toList, Expression.isNamePart c = true

instance (s : Substitution) : Decidable s.NamesAreNameParts :=
  decidable_of_iff (s.names.all (·.toList.all Expression.isNamePart) = true)
    (by simp [NamesAreNameParts])

/-- Whether a text between two others is a maximal run of characters of names. -/
structure IsNameRun (front run rest : String) : Prop where
  ne : run ≠ ""
  part : ∀ c ∈ run.toList, Expression.isNamePart c = true
  before : ∀ c ∈ front.toList.getLast?, Expression.isNamePart c = false
  after : ∀ c ∈ rest.toList.head?, Expression.isNamePart c = false

variable {s : Substitution} {front run rest : String}

theorem isNameRun_iff :
    IsNameRun front run rest ↔ run ≠ "" ∧ run.toList.all Expression.isNamePart = true ∧
      front.toList.getLast?.any Expression.isNamePart = false ∧
      rest.toList.head?.any Expression.isNamePart = false := by
  have hnone : ∀ o : Option Char, o.any Expression.isNamePart = false ↔
      ∀ c ∈ o, Expression.isNamePart c = false := by
    intro o
    cases o <;> simp
  rw [hnone, hnone, List.all_eq_true]
  exact ⟨fun h => ⟨h.ne, h.part, h.before, h.after⟩, fun h => ⟨h.1, h.2.1, h.2.2.1, h.2.2.2⟩⟩

instance (front run rest : String) : Decidable (IsNameRun front run rest) :=
  decidable_of_iff _ isNameRun_iff.symm

theorem isNamePart_of_mem_words (hnames : s.NamesAreNameParts) :
    ∀ w ∈ s.words.map String.toList, ∀ c ∈ w, Expression.isNamePart c = true :=
  forall_words (List.all_eq_true.mp (by decide)) hnames

section Run

variable (hnames : s.NamesAreNameParts) (hrun : IsNameRun front run rest)
  (hnone : ∀ name ∈ s.words,
    ¬ StandsIn front.toList.getLast? rest.toList.head? name.toList run.toList)
include hnames hrun hnone

/-- Nothing is found in an identifier in which no name stands as a word of its own. -/
theorem wordAt?_nameRun {a b : List Char} (hsplit : run.toList = a ++ b) :
    wordAt? (s.words.map String.toList) (a.getLast?.or front.toList.getLast?)
      (b ++ rest.toList) = none := by
  cases hfound : wordAt? (s.words.map String.toList) (a.getLast?.or front.toList.getLast?)
      (b ++ rest.toList) with
  | none => rfl
  | some word =>
      obtain ⟨hmem, after, hafter, -, -⟩ := wordAt?_eq_some hfound
      have hfits : word <+: b := Text.isPrefix_of_forall
        (isNamePart_of_mem_words hnames word hmem) hrun.after ⟨after, hafter.symm⟩
      obtain ⟨-, hstands⟩ := standsIn_of_wordAt? ne_nil_of_mem_words hfound hfits
      obtain ⟨name, hname, rfl⟩ := List.mem_map.mp hmem
      rw [← hsplit] at hstands
      exact absurd hstands (hnone name hname)

/-- **An identifier is passed over.** If no name stands in it as a word of its own, it is left as it
is, and so it does not matter to what stands before and behind. -/
theorem apply_of_isNameRun :
    s.apply (front ++ run ++ rest) = s.apply front ++ run ++ s.apply rest := by
  have hparts := isNamePart_of_mem_words hnames
  have hcopy : Text.rewriteFrom s.finder front.toList.getLast? (run.toList ++ rest.toList) =
      run.toList ++ Text.rewriteFrom s.finder
        (run.toList.getLast?.or front.toList.getLast?) rest.toList := by
    refine Text.rewriteFrom_copy fun a c b hsplit => finder_eq_none ?_
    have hc : Expression.isNamePart c = true := hrun.part c (by simp [hsplit])
    have hcomma : c ≠ ',' := by
      intro heq
      rw [heq] at hc
      exact absurd hc (by decide)
    have hword := wordAt?_nameRun hnames hrun hnone hsplit
    rw [List.cons_append] at hword ⊢
    rw [occurrenceAt?_of_ne_comma hcomma, occurrenceBehind?, List.getLast?_nil, Option.none_or,
      hword, Option.map_none]
  have hapart : Apart (s.words.map String.toList) front.toList (run.toList ++ rest.toList) := by
    refine .of_last ne_nil_of_mem_words ?_ ?_ ?_
    · intro c hc w hw hmem
      have hpart := hparts w hw c hmem
      rw [hrun.before c hc] at hpart
      cases hpart
    · have hne : run.toList ≠ [] := by simpa using hrun.ne
      rw [List.head?_append_of_ne_nil _ hne, List.head?_eq_some_head hne]
      exact Expression.isBlank_of_isNamePart (hrun.part _ (List.head_mem hne))
    · simpa using wordAt?_nameRun hnames hrun hnone (List.nil_append run.toList).symm
  have hbehind : Text.rewriteFrom s.finder (run.toList.getLast?.or front.toList.getLast?)
      rest.toList = Text.rewriteFrom s.finder none rest.toList := by
    cases hrest : rest.toList with
    | nil => rfl
    | cons c after =>
        have hnot : ∀ w ∈ s.words.map String.toList, w.head? ≠ some c := by
          intro w hw hhead
          have hpart := hparts w hw c (List.mem_of_head? hhead)
          rw [hrun.after c (by rw [hrest]; rfl)] at hpart
          cases hpart
        exact Text.rewriteFrom_congr
          (finder_congr (occurrenceAt?_of_head ne_nil_of_mem_words hnot _ _ _))
  apply String.toList_inj.mp
  calc (s.apply (front ++ run ++ rest)).toList
      = Text.rewriteFrom s.finder none (front.toList ++ (run.toList ++ rest.toList)) := by
        rw [toList_apply, String.toList_append, String.toList_append, List.append_assoc]
    _ = Text.rewriteFrom s.finder none front.toList ++
          Text.rewriteFrom s.finder front.toList.getLast? (run.toList ++ rest.toList) := by
        rw [rewriteFrom_append_of_apart hapart, Option.or_none]
    _ = Text.rewriteFrom s.finder none front.toList ++
          (run.toList ++ Text.rewriteFrom s.finder none rest.toList) := by
        rw [hcopy, hbehind]
    _ = (s.apply front ++ run ++ s.apply rest).toList := by
        simp only [toList_apply, String.toList_append, List.append_assoc]

end Run

/-- **Identifiers and word boundaries.** Where names are made of characters of names, a maximal run
of such characters is left as it is if no name stands in it as a word of its own. That no name but
the run itself changes it, whatever the names are and whatever stands around the run, holds exactly
for a run that is made of word characters alone or of none. -/
theorem apply_name_run {run : String} (hself : IsNameRun "" run "") :
    (∀ (s : Substitution) (front rest : String), s.NamesAreNameParts → IsNameRun front run rest →
      (∀ name ∈ s.words,
        ¬ StandsIn front.toList.getLast? rest.toList.head? name.toList run.toList) →
      s.apply (front ++ run ++ rest) = s.apply front ++ run ++ s.apply rest) ∧
    ((∀ (s : Substitution) (front rest : String), s.NamesAreNameParts → IsNameRun front run rest →
        run ∉ s.words → s.apply (front ++ run ++ rest) = s.apply front ++ run ++ s.apply rest) ↔
      (∀ c ∈ run.toList, Text.isWordChar c = true) ∨
        ∀ c ∈ run.toList, Text.isWordChar c = false) := by
  refine ⟨fun s front rest => apply_of_isNameRun, ?_⟩
  constructor
  · intro hkept
    by_contra hmixed
    push Not at hmixed
    obtain ⟨⟨d, hd, hother⟩, hword⟩ := hmixed
    obtain ⟨gap, word, after, hsplit, hgap, hne, hrun, hafter⟩ :=
      exists_first_run (by simpa using hword)
    have hnames : (marking (String.ofList word)).NamesAreNameParts := by
      intro name hname c hc
      obtain rfl : name = String.ofList word := by simpa [marking, names] using hname
      rw [String.toList_ofList] at hc
      exact hself.part c (by simp [hsplit, hc])
    have hnot : run ∉ (marking (String.ofList word)).words := by
      intro hmem
      obtain rfl : run = String.ofList word := by
        simpa [marking] using (mem_words.mp hmem).2
      rw [String.toList_ofList] at hd
      exact hother (hrun d hd)
    have hsame := hkept _ "" "" hnames hself hnot
    have hempty : (marking (String.ofList word)).apply "" = "" := rfl
    rw [hempty, String.append_empty, String.empty_append] at hsame
    have hlist := congrArg String.toList hsame
    rw [toList_apply, hsplit] at hlist
    exact rewriteFrom_marking_ne hgap hne hrun hafter hlist
  · intro hkind s front rest hnames hrun hnot
    refine apply_of_isNameRun hnames hrun fun name hname hstands => ?_
    have hne : name.toList ≠ [] := by simpa using (mem_words.mp hname).1
    have heq : name.toList = run.toList := by
      rcases hkind with hkind | hkind
      · exact eq_of_standsIn hkind hne hstands
      · exact eq_of_standsIn hkind hne hstands
    exact hnot (String.toList_inj.mp heq ▸ hname)

/-- A parameter whose name is the first part of a longer identifier. -/
def shortName : Substitution := ⟨none, [], [⟨"a", "x", false⟩]⟩

/-- The longer identifier does not stay as it is. -/
theorem identifier_changed_shortName :
    shortName.NamesAreNameParts ∧ IsNameRun "g(" "a$b" ")" ∧ "a$b" ∉ shortName.words ∧
      shortName.apply ("g(" ++ "a$b" ++ ")") ≠
        shortName.apply "g(" ++ "a$b" ++ shortName.apply ")" := by
  decide +kernel

/-- One without a word boundary does, although it begins with the name. -/
theorem apply_name_run_shortName :
    IsNameRun "g(a, " "ab" ")" ∧ "ab" ∉ shortName.words ∧
      shortName.apply ("g(a, " ++ "ab" ++ ")") = "g(x, ab)" := by
  have hrun : IsNameRun "g(a, " "ab" ")" := by decide +kernel
  have hnot : "ab" ∉ shortName.words := by decide +kernel
  have hall : "ab".toList.all Text.isWordChar = true := by decide
  have hwords := List.all_eq_true.mp hall
  refine ⟨hrun, hnot, ?_⟩
  rw [(apply_name_run (by decide +kernel)).2.mpr (Or.inl hwords) shortName _ _ (by decide +kernel)
    hrun hnot]
  decide +kernel

end Substitution

end CallMigration
