import CallMigration.Finding.Rendering
import CallMigration.Proofs.ImportTable.Stability
import CallMigration.Proofs.Inlining
import CallMigration.Proofs.Inlining.Delegation
import CallMigration.Proofs.Substitution.Omission
import CallMigration.Proofs.Template.ThisQualifier

/-!
# Findings that leave nothing

A fix that takes text out and puts none in is reported as the deletion of a statement. There are two
ways to such a fix (`CallSite.Deletes`). One deletes the statement of a call that amounts to its
receiver. The other replaces the call itself by nothing, and its statement, if there is one, stays:
the template consists of the parameter of variable length alone, and no argument is left for it.
There is no third one (`CallSite.deletes_of_found`).
-/

namespace CallMigration

theorem ne_empty_of_isBlankText {text : String} (h : isBlankText text = false) : text ≠ "" := by
  rintro rfl
  cases h

namespace Finding

/-- A finding whose fix puts no text in reads as the deletion of a statement. -/
theorem pretty_of_text_eq_empty {finding : Finding} (h : finding.fix.edit.text = "") :
    ∃ front, finding.pretty = front ++ "delete statement" := by
  unfold pretty
  rw [if_pos h]
  exact ⟨_, rfl⟩

end Finding

namespace CallSite

variable {site : CallSite} {t : Template} {table : ImportTable}

/-- Whether neither the arguments nor the receiver are blank. -/
structure HasSolidTexts (site : CallSite) : Prop where
  arguments : ∀ argument ∈ site.arguments, isBlankText argument = false
  receiver : ∀ receiver, site.receiver? = some receiver → isBlankText receiver.text = false

section Meanings

/-- The text that stands for the receiver is never empty. -/
theorem receiverText?_ne_empty (site : CallSite) : site.receiverText? ≠ some "" := by
  unfold receiverText?
  split
  · next keyword _ => cases keyword <;> decide
  · simp
  · next classText _ =>
      intro h
      have := congrArg String.toList (Option.some.inj h)
      simp at this

/-- A receiver whose text is not blank stands for itself, or a keyword does. -/
theorem isSome_receiverText? (htexts : site.HasSolidTexts) {receiver : Expression}
    (h : site.receiver? = some receiver) : site.receiverText?.isSome = true := by
  have hne := ne_empty_of_isBlankText (htexts.receiver receiver h)
  unfold receiver? CallKind.receiver? at h
  unfold receiverText?
  split
  · rfl
  · next hkind =>
      rw [hkind] at h
      obtain rfl : _ = some receiver := h
      simp [hne]
  · rfl

theorem HasSolidTexts.argument_ne_empty (htexts : site.HasSolidTexts) :
    ∀ argument ∈ site.arguments, argument ≠ "" :=
  fun argument hargument => ne_empty_of_isBlankText (htexts.arguments argument hargument)

/-- The arguments for a parameter of variable length come to nothing only if none is left for it. -/
theorem hasEmptyVarargs_of_value_eq_empty (htexts : site.HasSolidTexts) {name : String}
    (hvarargs : site.target.isVarargs = true) (hlast : site.target.params.getLast? = some name)
    (hvalue : (site.varargsBinding name).value = "") : site.hasEmptyVarargs = true := by
  obtain ⟨names, hparams⟩ := List.getLast?_eq_some_iff.mp hlast
  rw [varargsBinding_eq hvarargs hparams] at hvalue
  rw [hasEmptyVarargs_eq hvarargs hparams, List.isEmpty_iff]
  by_contra hleft
  exact intercalate_ne_empty hleft
    (fun argument hargument =>
      htexts.argument_ne_empty argument (List.mem_of_mem_drop hargument)) hvalue

/-- Where no argument is blank, nothing is bound to the empty text but the parameter of variable
length that no argument is left for. -/
theorem of_value_eq_empty (htexts : site.HasSolidTexts) {b : Binding} (hb : b ∈ site.bindings)
    (hvalue : b.value = "") :
    site.hasEmptyVarargs = true ∧ site.target.params.getLast? = some b.name ∧
      b = ⟨b.name, "", true⟩ := by
  have hplaced : ∀ params, b ∉ positional params site.arguments := by
    intro params hmem
    have hargument := List.mem_map_of_mem (f := (·.value)) hmem
    rw [map_value_positional] at hargument
    exact htexts.argument_ne_empty _ (List.mem_of_mem_take hargument) hvalue
  unfold bindings at hb
  split at hb
  · next name hvarargs hlast =>
      rcases List.mem_append.mp hb with hmem | hmem
      · exact absurd hmem (hplaced _)
      · obtain rfl := List.mem_singleton.mp hmem
        have hempty := hasEmptyVarargs_of_value_eq_empty htexts hvarargs hlast hvalue
        rw [varargsBinding, if_pos hempty]
        exact ⟨hempty, hlast, rfl⟩
  · exact absurd hb (hplaced _)

/-- No type with a simple name is spelled by the empty text. -/
theorem snd_ne_empty_of_mem_spellTypes {names : List String} {needed : NewImports}
    {type : String × String} (h : type ∈ (spellTypes table names needed).1) (hne : type.1 ≠ "") :
    type.2 ≠ "" := by
  induction names generalizing needed with
  | nil => cases h
  | cons name names ih =>
      rcases List.mem_cons.mp h with heq | h
      · have hsimple : type.1 = QualifiedName.simpleName name := congrArg Prod.fst heq
        have hspelled : type.2 = (table.qualify name needed).1 := congrArg Prod.snd heq
        intro hempty
        rw [hempty] at hspelled
        rw [hsimple] at hne
        rcases (table.spelledAs_qualify name needed).eq_or_eq with hfull | hshort
        · obtain rfl : name = "" := hfull.symm.trans hspelled.symm
          exact hne rfl
        · exact hne (hshort.symm.trans hspelled.symm)
      · exact ih h

/-- Of all that the names in a template stand for, only a parameter of variable length can be
empty. -/
theorem leavesOut_substitution (htexts : site.HasSolidTexts) :
    (site.substitution t table).LeavesOut (site.target.params.getLast?.getD "") where
  receiver := site.receiverText?_ne_empty
  types := fun _ => snd_ne_empty_of_mem_spellTypes
  parameters := by
    intro b hb hvalue
    obtain ⟨-, hlast, heq⟩ := of_value_eq_empty htexts hb hvalue
    rw [hlast]
    exact heq

end Meanings

section Texts

/-- Where the receiver's text stays, the fix starts from the dot behind `this`. -/
theorem startText_of_keepsReceiver (htexts : site.HasSolidTexts)
    (h : site.keepsReceiver t = true) : ∃ rest, site.startText t = String.ofList ('.' :: rest) := by
  obtain ⟨hsome, rest, hrest⟩ := keepsReceiver_iff.mp h
  obtain ⟨receiver, hreceiver⟩ := Option.isSome_iff_exists.mp hsome
  obtain ⟨text, htext⟩ := Option.isSome_iff_exists.mp (isSome_receiverText? htexts hreceiver)
  exact ⟨rest, by simp [startText, h, htext, ← hrest]⟩

/-- A fix never starts from the empty text. -/
theorem startText_ne_empty (htexts : site.HasSolidTexts) : site.startText t ≠ "" := by
  cases hkeeps : site.keepsReceiver t with
  | true =>
      obtain ⟨rest, hstart⟩ := startText_of_keepsReceiver htexts hkeeps
      simp [hstart]
  | false =>
      have hne := ne_empty_of_isBlankText t.replacement_not_blank
      unfold startText
      rw [hkeeps, if_neg (by simp)]
      simp only
      split
      · exact Template.dropThisQualifiers_ne_empty hne
      · exact hne

/-- A fix of which nothing is left replaces the whole call: no receiver stays in front of it. -/
theorem editRange_of_leavesNothing (htexts : site.HasSolidTexts) {rest : String}
    (h : (site.substitution t table).LeavesNothing rest (site.startText t)) :
    site.editRange t = site.call.range := by
  cases hkeeps : site.keepsReceiver t with
  | true =>
      obtain ⟨behind, hstart⟩ := startText_of_keepsReceiver htexts hkeeps
      have hhead := h.isWordAt_head?
      rw [hstart, String.toList_ofList, List.head?_cons] at hhead
      exact absurd hhead (by decide)
  | false => exact editRange_of_not_keepsReceiver hkeeps

/-- What a fix leaves of a template that says that the call amounts to its receiver. -/
theorem text_callFix_of_isPassThrough {statement : TextRange} {receiver : Expression}
    (hnames : (site.substitution t table).NamesAreWords)
    (h : site.IsPassThrough t statement receiver) :
    (site.callFix t table).edit.text ≠ "" := by
  obtain ⟨text, htext⟩ := Option.isSome_iff_exists.mp h.text
  have hkeeps : site.keepsReceiver t = false := by
    rw [keepsReceiver, h.template, Bool.and_eq_false_iff]
    exact Or.inr (by decide)
  have hstart : site.startText t = String.ofList ("this".toList ++ []) := by
    rw [startText, hkeeps, htext, h.template]
    rfl
  have happly := @Substitution.apply_this_append _ text hnames htext [] (by simp)
  rw [← hstart] at happly
  intro hempty
  have hnil := congrArg String.toList (happly.symm.trans hempty)
  rw [String.toList_append, String.toList_empty, List.append_eq_nil_iff] at hnil
  obtain rfl : text = "" := by simpa using hnil.1
  exact site.receiverText?_ne_empty htext

end Texts

section Findings

variable {settings : Settings} {collaborators : Collaborators} {finding : Finding}

/-- The two ways in which an edit that a call is answered with can take text out and put none in. -/
inductive Deletes (site : CallSite) (t : Template) (table : ImportTable)
    (collaborators : Collaborators) : Edit → Prop
  | statement {statement : TextRange} {receiver : Expression}
      (h : site.IsPassThrough t statement receiver)
      (hpure : collaborators.hasSideEffect receiver = false) :
      Deletes site t table collaborators (.deletion statement)
  | call {rest : String} (hempty : site.hasEmptyVarargs = true)
      (hlast : site.target.params.getLast? = some rest)
      (h : (site.substitution t table).LeavesNothing rest (site.startText t)) :
      Deletes site t table collaborators ⟨site.call.range, ""⟩

/-- Where the fix of a call has no text, its template is the parameter that no argument is left
for. -/
theorem deletes_of_text_callFix (htexts : site.HasSolidTexts)
    (h : (site.callFix t table).edit.text = "") :
    site.Deletes t table collaborators (site.callFix t table).edit := by
  have hnothing := (leavesOut_substitution htexts).leavesNothing (startText_ne_empty htexts) h
  have hrange := editRange_of_leavesNothing htexts hnothing
  have hedit : (site.callFix t table).edit = ⟨site.call.range, ""⟩ := by
    rw [← hrange, ← h]
    rfl
  -- The parameter is one of the call's, since no receiver and no type means a parameter.
  rcases Substitution.exists_of_meaning? hnothing.meaning with ⟨_, -, hliteral⟩ |
    ⟨_, -, -, hliteral⟩ | ⟨b, hb, -, hmeaning⟩
  · cases hliteral
  · cases hliteral
  · obtain rfl := Substitution.Meaning.parameter.inj hmeaning
    obtain ⟨hempty, hlast, -⟩ := of_value_eq_empty htexts hb rfl
    exact hedit ▸ Deletes.call hempty hlast hnothing

/-- **What reads as a deletion.** Where the texts of a call are not blank, a fix that reads as the
deletion of a statement deletes the statement of a call that amounts to its receiver, which has no
side effect, or it replaces the call by nothing, and then the template is the parameter of variable
length alone, with no argument left for it. Where names are words, each such template has that
fix. -/
theorem deletes_of_found (htexts : site.HasSolidTexts)
    (hcall : site.call.range.start < site.call.range.stop)
    (h : (site.inline (some t) settings table collaborators).verdict = .found finding) :
    (finding.fix.isDeletion = true →
        (∃ front, finding.pretty = front ++ "delete statement") ∧
          site.Deletes t table collaborators finding.fix.edit) ∧
      ((site.substitution t table).NamesAreWords → ∀ rest,
        (site.substitution t table).LeavesNothing rest (site.startText t) →
          finding.fix.isDeletion = true ∧ finding.fix.edit.range = site.call.range) := by
  have hshown : finding.fix.isDeletion = true →
      finding.fix.edit.text = "" ∧ ∃ front, finding.pretty = front ++ "delete statement" := by
    intro hdeletion
    rw [Fix.isDeletion, Bool.and_eq_true, beq_iff_eq] at hdeletion
    exact ⟨hdeletion.1, Finding.pretty_of_text_eq_empty hdeletion.1⟩
  obtain ⟨t', ht, -, ⟨statement, receiver, hpass, hpure, rfl⟩ | ⟨-, rfl, -⟩⟩ := verdict_inline h
  · obtain rfl := Option.some.inj ht
    refine ⟨fun hdeletion => ⟨(hshown hdeletion).2, .statement hpass hpure⟩, ?_⟩
    intro hnames rest hnothing
    exact absurd (hnothing.apply_eq_empty hnames) (text_callFix_of_isPassThrough hnames hpass)
  · obtain rfl := Option.some.inj ht
    refine ⟨fun hdeletion => ?_, fun hnames rest hnothing => ?_⟩
    · obtain ⟨htext, hpretty⟩ := hshown hdeletion
      exact ⟨hpretty, deletes_of_text_callFix htexts htext⟩
    · have htext : (site.callFix t table).edit.text = "" := hnothing.apply_eq_empty hnames
      have hrange : (site.callFix t table).edit.range = site.call.range :=
        editRange_of_leavesNothing htexts hnothing
      refine ⟨?_, hrange⟩
      rw [Fix.isDeletion, Bool.and_eq_true, beq_iff_eq, decide_eq_true_eq]
      exact ⟨htext, hrange ▸ hcall⟩

/-- A call without arguments to a declaration with one parameter of variable length. -/
def emptyCall : CallSite where
  kind := .method (some ⟨⟨20, 21⟩, "x"⟩) none
  target := ⟨"w.W", "all", "w", ["rest"], true, false, false⟩
  arguments := []
  call := ⟨⟨20, 27⟩, "x.all()"⟩
  statement := none
  arguments_fit := rfl
  receiver_within := rfl

/-- A template that consists of that parameter alone. -/
def restTemplate : Template := Finding.importing [] "rest" rfl

/-- The finding for that call. -/
def emptyFinding : Finding :=
  emptyCall.replacement (Api.ofTarget emptyCall.target restTemplate) restTemplate
    ⟨⟨⟨20, 27⟩, ""⟩, .none⟩

theorem verdict_emptyCall : (emptyCall.inline (some restTemplate) .default .empty
    ⟨fun _ => true, none⟩).verdict = .found emptyFinding := by
  decide +kernel

theorem hasSolidTexts_emptyCall : emptyCall.HasSolidTexts where
  arguments := by decide
  receiver := by
    intro receiver hreceiver
    obtain rfl := Option.some.inj hreceiver
    decide

/-- The finding reads as a deletion, though the template is not `this` and no statement goes
away. -/
theorem reads_as_deletion_emptyCall :
    emptyCall.HasSolidTexts ∧ emptyCall.call.range.start < emptyCall.call.range.stop ∧
      (emptyCall.inline (some restTemplate) .default .empty ⟨fun _ => true, none⟩).verdict =
        .found emptyFinding ∧
      emptyFinding.fix.isDeletion = true ∧
      (∃ front, emptyFinding.pretty = front ++ "delete statement") ∧
      restTemplate.replacement ≠ "this" ∧ emptyCall.statement = none ∧
      emptyFinding.fix.edit = ⟨emptyCall.call.range, ""⟩ :=
  ⟨hasSolidTexts_emptyCall, by decide, verdict_emptyCall, by decide,
    Finding.pretty_of_text_eq_empty rfl, by decide, rfl, rfl⟩

/-- The parameter is all there is to the template, so the call is replaced by nothing. -/
theorem deletes_of_found_emptyCall :
    emptyFinding.fix.isDeletion = true ∧
      emptyCall.Deletes restTemplate .empty ⟨fun _ => true, none⟩ emptyFinding.fix.edit := by
  have hnames : (emptyCall.substitution restTemplate .empty).NamesAreWords := by decide
  have hnothing : (emptyCall.substitution restTemplate .empty).LeavesNothing "rest"
      (emptyCall.startText restTemplate) :=
    ⟨by decide, by decide +kernel, [], [], by decide +kernel, Or.inl rfl, .nil⟩
  obtain ⟨hdeletes, hdeleted⟩ := deletes_of_found hasSolidTexts_emptyCall (by decide)
    verdict_emptyCall
  have hdeletion := (hdeleted hnames "rest" hnothing).1
  exact ⟨hdeletion, (hdeletes hdeletion).2⟩

end Findings

end CallSite

end CallMigration
