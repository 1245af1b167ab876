import CallMigration.Proofs.CallSite
import CallMigration.Proofs.Inlining.Narrowing
import CallMigration.Proofs.Substitution.Listing

/-!
# Calls that are passed on

A template such as `this.callee(a, b)` passes a call on to another method with the parameters as
they are declared. What is written then is the list of arguments as the call has it. Each parameter
becomes its argument, the last one of a declaration of variable length becomes all that are left,
and where none is left it goes with its comma (`CallSite.listed_bindings`).
-/

namespace CallMigration

/-- Joining the last parts of a list before the list is joined makes no difference. -/
theorem intercalate_append_intercalate {parts rest : List String} (hrest : rest ≠ []) :
    ", ".intercalate (parts ++ [", ".intercalate rest]) = ", ".intercalate (parts ++ rest) := by
  by_cases hparts : parts = []
  · simp [hparts]
  · rw [String.intercalate_append_of_ne_nil hparts (by simp), String.intercalate_singleton,
      String.intercalate_append_of_ne_nil hparts hrest]

/-- A list with commas is empty only if it has no parts or its parts are empty. -/
theorem intercalate_ne_empty {parts : List String} (hne : parts ≠ [])
    (h : ∀ part ∈ parts, part ≠ "") : ", ".intercalate parts ≠ "" := by
  obtain ⟨part, parts, rfl⟩ := List.exists_cons_of_ne_nil hne
  intro hempty
  have hlist := toList_intercalate_cons part parts
  rw [hempty] at hlist
  have hpart : part.toList = [] := (List.append_eq_nil_iff.mp hlist.symm).1
  exact h part (by simp) (by simpa using hpart)

namespace Binding

/-- Parameters that have arguments are listed by their values. -/
theorem listed_eq_intercalate {bindings : List Binding}
    (h : ∀ b ∈ bindings, b.emptyVarargs = false) :
    listed bindings = (", ".intercalate (bindings.map (·.value))).toList := by
  cases bindings with
  | nil => simp [listed]
  | cons b bindings =>
      rw [List.forall_mem_cons] at h
      have hcommas : following bindings =
          bindings.flatMap fun b => ", ".toList ++ b.value.toList :=
        List.flatMap_congr fun b hb => by rw [h.2 b hb, if_neg (by simp)]
      rw [listed, hcommas, List.map_cons, toList_intercalate_cons, List.flatMap_map]

/-- A parameter that no argument is left for adds nothing to a list. -/
theorem listed_append_empty (bindings : List Binding) (name : String) :
    listed (bindings ++ [⟨name, "", true⟩]) = listed bindings := by
  cases bindings <;> simp [listed, following]

end Binding

namespace CallSite

variable {site : CallSite} {t : Template} {table : ImportTable} {receiver : Expression}
  {settings : Settings} {collaborators : Collaborators} {finding : Finding}

/-- **All arguments are passed on.** The parameters in their order are listed as the arguments of
the call, whether each has one, the last has several or none is left for it. -/
theorem listed_bindings (hvarargs : site.target.isVarargs = true → site.target.params ≠ []) :
    Binding.listed site.bindings = (", ".intercalate site.arguments).toList := by
  rcases bindings_cases site with ⟨-, hlength, hbindings⟩ | ⟨hkind, hnone, -⟩ |
    ⟨-, names, name, leading, rest, -, harguments, hlength, hbindings⟩
  · rw [hbindings, Binding.listed_eq_intercalate emptyVarargs_of_mem_positional,
      map_value_positional, ← hlength, List.take_length]
  · exact absurd hnone (hvarargs hkind)
  · have hvalues : (positional names leading).map (·.value) = leading := by
      rw [map_value_positional, ← hlength, List.take_length]
    by_cases hrest : rest = []
    · have hbound : site.bindings = positional names leading ++ [⟨name, "", true⟩] := by
        rw [hbindings, hrest]
        rfl
      rw [hbound, Binding.listed_append_empty,
        Binding.listed_eq_intercalate emptyVarargs_of_mem_positional, hvalues, harguments, hrest,
        List.append_nil]
    · have hleft : rest.isEmpty = false := List.isEmpty_eq_false_iff.mpr hrest
      rw [hbindings, hleft, Binding.listed_eq_intercalate (List.forall_mem_append.mpr
          ⟨emptyVarargs_of_mem_positional, by simp⟩), List.map_append, hvalues,
        List.map_singleton, intercalate_append_intercalate hrest, harguments]

/-- **Calls are passed on unchanged.** Let a template pass a call on its receiver on to a method,
with the parameters as they are declared and no types. Whatever the arguments spell and however many
are left for the last parameter, the fix writes the call of that method with the arguments as they
are. -/
theorem edit_of_delegation {callee : String}
    (hkind : site.kind = .method (some receiver) none) (hne : receiver.text ≠ "")
    (hparams : ∀ name ∈ site.target.params, Substitution.IsPlainName name)
    (hdistinct : site.target.params.Nodup)
    (hvarargs : site.target.isVarargs = true → site.target.params ≠ [])
    (hcallee : Substitution.IsPlainName callee) (himports : t.imports = [])
    (hreplacement : t.replacement =
      "this." ++ callee ++ "(" ++ ", ".intercalate site.target.params ++ ")")
    (h : (site.inline (some t) settings table collaborators).verdict = .found finding) :
    finding.fix.edit = ⟨⟨receiver.range.stop, site.call.range.stop⟩,
      "." ++ callee ++ "(" ++ ", ".intercalate site.arguments ++ ")"⟩ := by
  have hreceiver := receiver?_of_kind hkind
  have htext := receiverText?_of_kind hkind hne
  have hthis : "this.".toList <+: t.replacement.toList := by
    simp [hreplacement]
  have htypes : (site.substitution t table).types = [] := by
    rw [substitution, himports]
    rfl
  have hnames : (site.substitution t table).parameters.map (·.name) = site.target.params :=
    map_name_bindings site
  have hstart : site.startText t =
      "." ++ callee ++ "(" ++ ", ".intercalate site.target.params ++ ")" := by
    have hkeeps : site.keepsReceiver t = true := by
      simpa [keepsReceiver, hreceiver] using hthis
    apply String.toList_inj.mp
    simp [startText, htext, hkeeps, hreplacement]
  have hparams' : ∀ b ∈ (site.substitution t table).parameters,
      Substitution.IsPlainName b.name := by
    rw [← hnames] at hparams
    exact List.forall_mem_map.mp hparams
  have happly := Substitution.apply_delegation htypes hparams' (hnames ▸ hdistinct) hcallee
  have hlisted : Binding.listed (site.substitution t table).parameters =
      (", ".intercalate site.arguments).toList := listed_bindings hvarargs
  rw [hnames, ← hstart, hlisted, String.ofList_toList] at happly
  have hrange : (site.callFix t table).edit.range =
      ⟨receiver.range.stop, site.call.range.stop⟩ := range_callFix_of_receiver hreceiver hthis
  rw [fix_of_verdict_inline hthis h, ← hrange, ← happly]
  rfl

/-- A call whose arguments spell parameters, with none for the last parameter. -/
def passedOn : CallSite where
  kind := .method (some ⟨⟨0, 1⟩, "w"⟩) none
  target := ⟨"w.W", "old", "w", ["callee", "a", "rest"], true, false, false⟩
  arguments := ["f(a, rest)", "$1"]
  call := ⟨⟨0, 21⟩, "w.old(f(a, rest), $1)"⟩
  statement := none
  arguments_fit := rfl
  receiver_within := rfl

/-- A template that passes on the parameters to a method with the name of one of them. -/
def passingOn : Template := Finding.importing [] "this.callee(callee, a, rest)" rfl

/-- The arguments are written as they are, and no comma is left behind them. -/
theorem edit_of_delegation_passedOn :
    ∃ finding, (passedOn.inline (some passingOn) .default .empty
        ⟨fun _ => true, none⟩).verdict = .found finding ∧
      finding.fix.edit = ⟨⟨1, 21⟩, ".callee(f(a, rest), $1)"⟩ := by
  have hsome : (passedOn.inline (some passingOn) .default .empty
      ⟨fun _ => true, none⟩).verdict.finding?.isSome = true := by
    decide +kernel
  obtain ⟨finding, hfinding⟩ := Option.isSome_iff_exists.mp hsome
  have hverdict := Verdict.finding?_eq_some_iff.mp hfinding
  have hplain : ∀ name ∈ passedOn.target.params, Substitution.IsPlainName name := by decide
  have hedit := edit_of_delegation rfl (by decide) hplain (by decide) (by decide)
    (hplain "callee" (by decide)) rfl (by decide) hverdict
  exact ⟨finding, hverdict, hedit.trans (by decide +kernel)⟩

end CallSite

end CallMigration
