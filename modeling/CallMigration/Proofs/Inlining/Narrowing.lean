import CallMigration.Proofs.CallSite
import CallMigration.Proofs.Edit.Validity
import CallMigration.Proofs.Finding.Imports
import CallMigration.Proofs.Substitution.Words

/-!
# Leaving the receiver in place

A template that begins with `this.` would put the receiver back where it stands already. The fix
leaves it there and replaces only what follows it. The source comes out the same: at the beginning
of a template `this` is a run of its own, so that what is behind it is rewritten as if it stood
alone (`Substitution.apply_this_append`).
-/

namespace CallMigration

namespace Substitution

variable {s : Substitution}

theorem apply_ofList (hnames : s.NamesAreWords) (text : List Char) :
    s.apply (String.ofList text) = String.ofList (s.render (chunks text)) := by
  unfold apply
  rw [String.toList_ofList, Text.replaceMatches_eq_rewriteFrom]
  exact congrArg String.ofList (rewriteFrom_eq_render hnames text (Or.inl rfl))

/-- Where no word character follows, `this` at the beginning of a template becomes the receiver, and
the rest is rewritten on its own. -/
theorem apply_this_append {receiver : String} (hnames : s.NamesAreWords)
    (hreceiver : s.receiver = some receiver) {rest : List Char}
    (hrest : ∀ c ∈ rest.head?, Text.isWordChar c = false) :
    s.apply (String.ofList ("this".toList ++ rest)) = receiver ++ s.apply (String.ofList rest) := by
  have hword : Text.IsWord "this".toList := by decide
  have hbecomes : (s.standIn "this".toList (opens (chunks rest))).1 = receiver.toList := by
    simp [standIn, hreceiver]
  rw [apply_ofList hnames, apply_ofList hnames, chunks_append (by decide) hword hrest, render,
    if_pos (by decide), hbecomes, String.ofList_append, String.ofList_toList]

end Substitution

namespace CallSite

variable {site : CallSite} {t : Template} {table : ImportTable}

/-- The types of a template are spelled under their simple names, in order. -/
theorem map_fst_spellTypes (table : ImportTable) (names : List String) (needed : NewImports) :
    (spellTypes table names needed).1.map (·.1) = names.map QualifiedName.simpleName := by
  induction names generalizing needed with
  | nil => rfl
  | cons name names ih =>
      rw [spellTypes, List.map_cons, List.map_cons, ih]

/-- What the names in a template stand for at the call. -/
def substitution (site : CallSite) (t : Template) (table : ImportTable) : Substitution :=
  ⟨site.receiverText?, (spellTypes table t.imports .none).1, site.bindings⟩

theorem namesAreWords_substitution
    (hparams : ∀ name ∈ site.target.params, Text.IsWord name.toList)
    (htypes : ∀ name ∈ t.imports, Text.IsWord (QualifiedName.simpleName name).toList) :
    (site.substitution t table).NamesAreWords := by
  intro name hname
  rw [substitution, map_fst_spellTypes, map_name_bindings, List.mem_append, List.mem_map] at hname
  rcases hname with ⟨type, htype, rfl⟩ | hparam
  · exact htypes type htype
  · exact hparams name hparam

section Kept

variable {receiver : Expression} {settings : Settings} {collaborators : Collaborators}
  {finding : Finding}

/-- A template that goes on behind `this` never deletes a statement: what is found is the fix of the
call. -/
theorem fix_of_verdict_inline (hthis : "this.".toList <+: t.replacement.toList)
    (h : (site.inline (some t) settings table collaborators).verdict = .found finding) :
    finding.fix = site.callFix t table := by
  obtain ⟨t', ht, -, ⟨statement, receiver, hpass, -⟩ | ⟨-, rfl, -⟩⟩ := verdict_inline h
  · obtain rfl := Option.some.inj ht
    rw [hpass.template] at hthis
    exact absurd hthis (by decide)
  · obtain rfl := Option.some.inj ht
    rfl

theorem receiver?_of_kind {keyword : Option SelfKeyword}
    (hkind : site.kind = .method (some receiver) keyword) : site.receiver? = some receiver := by
  rw [receiver?, hkind]
  rfl

theorem receiverText?_of_kind (hkind : site.kind = .method (some receiver) none)
    (hne : receiver.text ≠ "") : site.receiverText? = some receiver.text := by
  simp [receiverText?, hkind, hne]

/-- Where the receiver is left in place, the fix replaces what follows it. -/
theorem range_callFix_of_receiver (hreceiver : site.receiver? = some receiver)
    (hthis : "this.".toList <+: t.replacement.toList) :
    (site.callFix t table).edit.range = ⟨receiver.range.stop, site.call.range.stop⟩ :=
  editRange_of_receiver hreceiver hthis

/-- Where the receiver is left in place, its text and that of the fix are what the template says. -/
theorem text_callFix_of_receiver (hkind : site.kind = .method (some receiver) none)
    (hne : receiver.text ≠ "") (hthis : "this.".toList <+: t.replacement.toList)
    (hnames : (site.substitution t table).NamesAreWords) :
    (site.substitution t table).apply t.replacement =
      receiver.text ++ (site.callFix t table).edit.text := by
  have hreceiver := receiver?_of_kind hkind
  have htext := receiverText?_of_kind hkind hne
  have hkeeps : site.keepsReceiver t = true :=
    keepsReceiver_iff.mpr ⟨by simp [hreceiver], hthis⟩
  obtain ⟨rest, hrest⟩ := hthis
  have hwhole : t.replacement = String.ofList ("this".toList ++ '.' :: rest) := by
    rw [← String.ofList_toList (s := t.replacement), ← hrest]
    rfl
  have hdot : Text.isWordChar '.' = false := by decide
  have hstart : site.startText t = String.ofList ('.' :: rest) := by
    simp [startText, htext, hkeeps, ← hrest]
  calc (site.substitution t table).apply t.replacement
      = receiver.text ++ (site.substitution t table).apply (String.ofList ('.' :: rest)) := by
        rw [hwhole]
        exact Substitution.apply_this_append hnames htext (by simp [hdot])
    _ = receiver.text ++ (site.callFix t table).edit.text := by
        rw [← hstart]
        rfl

/-- **Leaving the receiver in place changes nothing.** The fix of a call whose template begins with
`this.` replaces what follows the receiver. Made alone, it gives the same source as replacing the
whole call by the template with the receiver written in the place of `this`. -/
theorem apply_fix_eq_apply_call {source : String}
    (hkind : site.kind = .method (some receiver) none)
    (hcall : (site.call.range.slice? source).isSome)
    (hreceiver : receiver.range.slice? source = some receiver.text) (hne : receiver.text ≠ "")
    (hstart : receiver.range.start = site.call.range.start)
    (hthis : "this.".toList <+: t.replacement.toList)
    (hparams : ∀ name ∈ site.target.params, Text.IsWord name.toList)
    (htypes : ∀ name ∈ t.imports, Text.IsWord (QualifiedName.simpleName name).toList)
    (h : (site.inline (some t) settings table collaborators).verdict = .found finding) :
    finding.fix.edit.range = ⟨receiver.range.stop, site.call.range.stop⟩ ∧
      ∃ fixed, finding.fix.edit.apply source = .ok fixed ∧
        Edit.apply source ⟨site.call.range, Substitution.apply
          ⟨some receiver.text, (spellTypes table t.imports .none).1, site.bindings⟩
          t.replacement⟩ = .ok fixed := by
  have hexpr := receiver?_of_kind hkind
  have hsubstitution : (⟨some receiver.text, (spellTypes table t.imports .none).1, site.bindings⟩ :
      Substitution) = site.substitution t table := by
    rw [substitution, receiverText?_of_kind hkind hne]
  have hnames : (site.substitution t table).NamesAreWords :=
    namesAreWords_substitution hparams htypes
  have htext := text_callFix_of_receiver hkind hne hthis hnames
  have hrange : finding.fix.edit.range = ⟨receiver.range.stop, site.call.range.stop⟩ := by
    rw [fix_of_verdict_inline hthis h]
    exact range_callFix_of_receiver hexpr hthis
  obtain ⟨before, after', hcut'⟩ := TextRange.slice?_eq_some_iff.mp hreceiver
  obtain ⟨piece, hpiece⟩ := Option.isSome_iff_exists.mp hcall
  obtain ⟨before', after, hcut⟩ := TextRange.slice?_eq_some_iff.mp hpiece
  have hwithin := contains_receiver hexpr
  simp only [TextRange.contains, Bool.and_eq_true, decide_eq_true_eq] at hwithin
  obtain ⟨rest, hparts, hnarrow⟩ := TextRange.cut?_following hcut hcut' hwithin.2
  -- The call and the receiver begin at the same place, so that the same text stands before them.
  obtain rfl : before' = before := by
    refine (Text.append_inj_of_byteLength (hparts.trans (List.append_assoc _ _ _)) ?_).1
    rw [(TextRange.byteLength_of_cut? hcut).1, (TextRange.byteLength_of_cut? hcut').1, hstart]
  refine ⟨hrange, _, Edit.apply_of_cut? (by rw [hrange]; exact hnarrow), ?_⟩
  rw [hsubstitution, Edit.apply_of_cut? hcut, htext, fix_of_verdict_inline hthis h]
  simp

end Kept

/-- A call on a receiver with a character of two bytes, without an argument for its last
parameter. -/
def accented : CallSite where
  kind := .method (some ⟨⟨4, 9⟩, "café"⟩) none
  target := ⟨"w.W", "old", "w", ["a", "rest"], true, false, false⟩
  arguments := ["1"]
  call := ⟨⟨4, 16⟩, "café.old(1)"⟩
  statement := none
  arguments_fit := rfl
  receiver_within := rfl

/-- A template that names the receiver, a type and the missing argument behind its leading
`this`. -/
def repeatingThis : Template :=
  Finding.importing ["lib.Foo"] "this.put(a, this, Foo.of(rest), rest)" rfl

/-- The fix of that call replaces what follows the receiver, as if the whole call were replaced. -/
theorem apply_fix_eq_apply_call_accented :
    ∃ finding, (accented.inline (some repeatingThis) .default (.ofSource "w = café.old(1);")
        ⟨fun _ => true, none⟩).verdict = .found finding ∧
      finding.fix.edit.range = ⟨9, 16⟩ ∧
      finding.fix.edit.apply "w = café.old(1);" = .ok "w = café.put(1, café, Foo.of());" := by
  have hwords : (accented.target.params ++
      repeatingThis.imports.map QualifiedName.simpleName).all (·.toList.all Text.isWordChar) =
        true := by
    decide +kernel
  have hnames : ∀ name ∈ accented.target.params ++
      repeatingThis.imports.map QualifiedName.simpleName, Text.IsWord name.toList :=
    fun name hname => List.all_eq_true.mp (List.all_eq_true.mp hwords name hname)
  cases hverdict : (accented.inline (some repeatingThis) .default (.ofSource "w = café.old(1);")
      ⟨fun _ => true, none⟩).verdict with
  | noMatch reason =>
      have hfound : (accented.inline (some repeatingThis) .default (.ofSource "w = café.old(1);")
          ⟨fun _ => true, none⟩).verdict.finding?.isSome = true := by
        decide +kernel
      rw [hverdict] at hfound
      cases hfound
  | found finding =>
      have hkind : accented.kind = .method (some ⟨⟨4, 9⟩, "café"⟩) none := rfl
      have hcall : (accented.call.range.slice? "w = café.old(1);").isSome := by decide +kernel
      have hreceiver : (⟨4, 9⟩ : TextRange).slice? "w = café.old(1);" = some "café" := by
        decide +kernel
      obtain ⟨hrange, fixed, hfixed, hwhole⟩ := apply_fix_eq_apply_call hkind hcall hreceiver
        (by decide) rfl (by decide)
        (fun name hname => hnames name (List.mem_append_left _ hname))
        (fun name hname => hnames _ (List.mem_append_right _ (List.mem_map_of_mem hname))) hverdict
      refine ⟨finding, rfl, hrange, ?_⟩
      rw [hfixed, ← hwhole]
      decide +kernel

end CallSite

end CallMigration
