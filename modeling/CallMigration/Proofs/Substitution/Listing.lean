import CallMigration.Proofs.Substitution.Separation

/-!
# Parameters listed in a call

A template can pass on all parameters in the order in which they are declared. In such a list each
parameter becomes its value, and the comma in front of it stays unless no argument is left for it
(`Substitution.rewriteFrom_following`). The name of the called method stays even if a parameter has
it, since the list is opened right behind it (`Substitution.apply_delegation`).
-/

namespace CallMigration

/-- A list with commas is its first part and the others, each behind a comma. -/
theorem toList_intercalate_cons (part : String) (parts : List String) :
    (", ".intercalate (part :: parts)).toList =
      part.toList ++ parts.flatMap fun p => ", ".toList ++ p.toList := by
  induction parts generalizing part with
  | nil => simp
  | cons next parts ih =>
      rw [String.intercalate_cons_cons, String.toList_append, String.toList_append, ih,
        List.flatMap_cons, List.append_assoc, List.append_assoc]

/-- What the parameters become that follow the first one in a list. -/
def Binding.following (bindings : List Binding) : List Char :=
  bindings.flatMap fun b => (if b.emptyVarargs then [] else ", ".toList) ++ b.value.toList

/-- What a list of parameters becomes. -/
def Binding.listed : List Binding → List Char
  | [] => []
  | b :: bindings => b.value.toList ++ following bindings

namespace Substitution

variable {s : Substitution} {before : Option Char}

/-- Of several bindings with distinct names each is found under its own name. -/
theorem find?_of_nodup {bindings : List Binding} (hdistinct : (bindings.map (·.name)).Nodup)
    {b : Binding} (hb : b ∈ bindings) : bindings.find? (·.name = b.name) = some b := by
  induction bindings with
  | nil => cases hb
  | cons first bindings ih =>
      rw [List.map_cons, List.nodup_cons] at hdistinct
      rcases List.mem_cons.mp hb with rfl | hb
      · simp
      · have hne : first.name ≠ b.name := by
          intro heq
          exact hdistinct.1 (heq ▸ List.mem_map_of_mem hb)
        rw [List.find?_cons_of_neg (by simpa using hne), ih hdistinct.2 hb]

/-- A parameter stands for its value, where there are no types. -/
theorem standIn_parameter (htypes : s.types = [])
    (hdistinct : (s.parameters.map (·.name)).Nodup) {b : Binding} (hb : b ∈ s.parameters)
    (hthis : b.name ≠ "this") :
    s.standIn b.name.toList false = (b.value.toList, b.emptyVarargs) := by
  simp [standIn, htypes, hthis, find?_of_nodup hdistinct hb]

/-- A called method keeps its name, where there are no types. -/
theorem standIn_called (htypes : s.types = []) {word : String} (hthis : word ≠ "this") :
    s.standIn word.toList true = (word.toList, false) := by
  cases hfind : s.parameters.find? (·.name = word) <;> simp [standIn, htypes, hthis, hfind]

/-- What can be passed on: a parameter whose name is a word of its own and stands for the value. -/
structure PassesOn (s : Substitution) (b : Binding) : Prop where
  ne_nil : b.name.toList ≠ []
  isWord : Text.IsWord b.name.toList
  standIn_eq : s.standIn b.name.toList false = (b.value.toList, b.emptyVarargs)

/-- A closing parenthesis is copied. -/
theorem rewriteFrom_close (hnames : s.NamesAreWords) :
    Text.rewriteFrom s.finder before [')'] = [')'] := by
  rw [Text.rewriteFrom_plain, Text.rewriteFrom_nil]
  exact finder_eq_none
    (occurrenceAt?_eq_none (isWord_of_mem_words hnames) (by decide) (by decide))

/-- Behind a listed parameter there is a comma or the end of the list. -/
theorem next_following (bindings : List Binding) :
    let rest := (bindings.flatMap fun b => ", ".toList ++ b.name.toList) ++ [')']
    Text.isWordAt rest.head? = false ∧ (rest.head? == some '(') = false := by
  cases bindings with
  | nil => decide
  | cons b bindings =>
      have hcomma : Text.isWordAt (some ',') = false := by decide
      exact ⟨hcomma, rfl⟩

/-- **Listed parameters are passed on.** Each becomes its value; the comma in front of it stays
unless no argument is left for it. -/
theorem rewriteFrom_following (hnames : s.NamesAreWords) {bindings : List Binding}
    (h : ∀ b ∈ bindings, s.PassesOn b) :
    Text.rewriteFrom s.finder before
        ((bindings.flatMap fun b => ", ".toList ++ b.name.toList) ++ [')']) =
      Binding.following bindings ++ [')'] := by
  induction bindings generalizing before with
  | nil => exact rewriteFrom_close hnames
  | cons b bindings ih =>
      rw [List.forall_mem_cons] at h
      obtain ⟨hb, hrest⟩ := h
      obtain ⟨hword, hopen⟩ := next_following bindings
      have hblanks : ∀ c ∈ [' '], Text.isBlank c = true :=
        List.forall_mem_singleton.mpr (by decide)
      have hstep := @rewriteFrom_comma s before hnames [' '] _ _ hb.ne_nil hblanks hb.isWord hword
      rw [hopen, hb.standIn_eq, ih hrest] at hstep
      simpa [Binding.following] using hstep

/-- The same holds of a whole list behind its opening parenthesis. -/
theorem rewriteFrom_listed (hnames : s.NamesAreWords) {bindings : List Binding}
    (h : ∀ b ∈ bindings, s.PassesOn b) :
    Text.rewriteFrom s.finder before
        ('(' :: (", ".intercalate (bindings.map (·.name))).toList ++ [')']) =
      '(' :: Binding.listed bindings ++ [')'] := by
  cases bindings with
  | nil =>
      have hopen : s.finder before ['(', ')'] = none := finder_eq_none
        (occurrenceAt?_eq_none (isWord_of_mem_words hnames) (by decide) (by decide))
      have hplain := Text.rewriteFrom_plain hopen
      rw [rewriteFrom_close hnames] at hplain
      simpa [Binding.listed] using hplain
  | cons b bindings =>
      rw [List.forall_mem_cons] at h
      obtain ⟨hb, hrest⟩ := h
      obtain ⟨hword, hopen⟩ := next_following bindings
      have hgap : ∀ c ∈ ['('], Text.isWordChar c = false :=
        List.forall_mem_singleton.mpr (by decide)
      have hstep := @rewriteFrom_gap s before hnames ['('] _ _ (by simp) hgap hb.ne_nil hb.isWord
        hword
      have hkept : dropComma ['('] = ['('] := by decide
      rw [hopen, hb.standIn_eq, hkept, ite_self, rewriteFrom_following hnames hrest] at hstep
      rw [List.map_cons, toList_intercalate_cons, List.flatMap_map]
      simpa [Binding.listed] using hstep

/-- Whether a name is a word other than `this`. -/
structure IsPlainName (name : String) : Prop where
  ne_empty : name ≠ ""
  ne_this : name ≠ "this"
  isWord : Text.IsWord name.toList

instance : DecidablePred IsPlainName := fun name =>
  decidable_of_iff (name ≠ "" ∧ name ≠ "this" ∧ Text.IsWord name.toList)
    ⟨fun ⟨hne, hthis, hword⟩ => ⟨hne, hthis, hword⟩, fun h => ⟨h.1, h.2, h.3⟩⟩

/-- **A template that passes on its parameters.** The called method keeps its name, whether or not a
parameter has it, and the list of parameters becomes the list of their values. -/
theorem apply_delegation (htypes : s.types = [])
    (hparams : ∀ b ∈ s.parameters, IsPlainName b.name)
    (hdistinct : (s.parameters.map (·.name)).Nodup) {callee : String}
    (hcallee : IsPlainName callee) :
    s.apply ("." ++ callee ++ "(" ++ ", ".intercalate (s.parameters.map (·.name)) ++ ")") =
      "." ++ callee ++ "(" ++ String.ofList (Binding.listed s.parameters) ++ ")" := by
  obtain ⟨hne, hthis, hword⟩ := hcallee
  have hnames : s.NamesAreWords := by
    rw [NamesAreWords, htypes, List.map_nil, List.nil_append]
    exact List.forall_mem_map.mpr fun b hb => (hparams b hb).isWord
  have hpasses : ∀ b ∈ s.parameters, s.PassesOn b := fun b hb =>
    ⟨by simpa using (hparams b hb).ne_empty, (hparams b hb).isWord,
      standIn_parameter htypes hdistinct hb (hparams b hb).ne_this⟩
  have hgap : ∀ c ∈ ['.'], Text.isWordChar c = false :=
    List.forall_mem_singleton.mpr (by decide)
  have hopen : Text.isWordAt (some '(') = false := by decide
  have hkept : dropComma ['.'] = ['.'] := by decide
  have hstep := @rewriteFrom_gap s none hnames ['.'] callee.toList
    ('(' :: (", ".intercalate (s.parameters.map (·.name))).toList ++ [')']) (by simp) hgap
    (by simpa using hne) hword hopen
  have hcalled : (('(' :: (", ".intercalate (s.parameters.map (·.name))).toList ++ [')']).head? ==
      some '(') = true := rfl
  rw [hcalled, standIn_called htypes hthis, hkept, ite_self,
    rewriteFrom_listed hnames hpasses] at hstep
  apply String.toList_inj.mp
  rw [toList_apply]
  simpa using hstep

end Substitution

end CallMigration
