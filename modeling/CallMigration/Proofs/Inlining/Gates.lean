import CallMigration.Inlining

/-!
# The gates of inlining

Which answer a call gets, and who is asked on the way to it, is settled by conditions that are tried
in a fixed order. `CallSite.InspectedAs` says for each answer under which of them it is given and
what has been asked by then. Inlining gives the one answer that they allow
(`CallSite.inspectedAs_iff`), and it learns nothing about its collaborators beyond the answers to
the questions that it reports (`CallSite.InspectedAs.congr`).
-/

namespace CallMigration

/-- Whether a fix is accepted only if it is seen to compile. -/
structure Settings.MustCompile (settings : Settings) (fix : Fix) : Prop where
  checked : settings.checkFixCompiles = true
  noImports : fix.addsImports = false

/-- Whether other collaborators answer all questions of an inspection as these do. Where it came to
there being nobody to ask what compiles, there must be nobody among the others either. -/
structure Collaborators.AgreeOn (collaborators others : Collaborators) (inspection : Inspection) :
    Prop where
  hasSideEffect : ∀ receiver ∈ inspection.sideEffectQueries,
    others.hasSideEffect receiver = collaborators.hasSideEffect receiver
  compiles : ∀ fix ∈ inspection.compileQueries,
    others.compiles.map (· fix) = collaborators.compiles.map (· fix)
  unavailable : inspection.verdict = .noMatch .verifierUnavailable → others.compiles = none

namespace CallSite

/-- Whether prefixes are set and none of them begins the identity of the called API. -/
def IsFilteredOut (site : CallSite) (settings : Settings) : Prop :=
  settings.prefixes ≠ [] ∧
    ∀ p ∈ settings.prefixes,
      ¬ p.toList <+: (site.target.owner ++ "#" ++ site.target.name).toList

/-- Whether calls with comments are left alone and the text of this one holds a comment. -/
def IsCommented (site : CallSite) (settings : Settings) : Prop :=
  settings.skipComments = true ∧ Comment.hasComment site.call.text = true

/-- Whether neither the prefixes nor a comment keep the call from being migrated. -/
structure IsOpen (site : CallSite) (settings : Settings) : Prop where
  selected : ¬ site.IsFilteredOut settings
  uncommented : ¬ site.IsCommented settings

/-- Whether the call amounts to its receiver by its template and is all there is to a statement. -/
structure IsPassThrough (site : CallSite) (t : Template) (statement : TextRange)
    (receiver : Expression) : Prop where
  template : t.replacement = "this"
  text : site.receiverText?.isSome = true
  receiver : site.receiver? = some receiver
  statement : site.statement = some statement

/-- Whether the statement of an open call stays, and which expressions have then been asked about:
the receiver with which the statement would have gone, if there is one. -/
inductive KeepsStatement (site : CallSite) (t : Template) (collaborators : Collaborators) :
    List Expression → Prop
  | unasked (h : ∀ statement receiver, ¬ site.IsPassThrough t statement receiver) :
      KeepsStatement site t collaborators []
  | sideEffect {statement : TextRange} {receiver : Expression}
      (h : site.IsPassThrough t statement receiver)
      (heffect : collaborators.hasSideEffect receiver = true) :
      KeepsStatement site t collaborators [receiver]

/-- The answer to a call that keeps its statement, and which fixes have been asked to compile. -/
inductive ConfirmedAs (site : CallSite) (t : Template) (settings : Settings)
    (collaborators : Collaborators) (fix : Fix) : Verdict → List Fix → Prop
  | unchecked (h : ¬ settings.MustCompile fix) :
      ConfirmedAs site t settings collaborators fix
        (.found (site.replacement (Api.ofTarget site.target t) t fix)) []
  | unavailable (h : settings.MustCompile fix) (hnone : collaborators.compiles = none) :
      ConfirmedAs site t settings collaborators fix (.noMatch .verifierUnavailable) []
  | rejected {compiles : Fix → Bool} (h : settings.MustCompile fix)
      (hsome : collaborators.compiles = some compiles) (hfix : compiles fix = false) :
      ConfirmedAs site t settings collaborators fix (.noMatch .fixDoesNotCompile) [fix]
  | accepted {compiles : Fix → Bool} (h : settings.MustCompile fix)
      (hsome : collaborators.compiles = some compiles) (hfix : compiles fix = true) :
      ConfirmedAs site t settings collaborators fix
        (.found (site.replacement (Api.ofTarget site.target t) t fix)) [fix]

/-- **The gates, in order.** The answer to a call together with the questions asked for it. -/
inductive InspectedAs (site : CallSite) (template : Option Template) (settings : Settings)
    (table : ImportTable) (collaborators : Collaborators) : Inspection → Prop
  | notAnnotated (h : template = none) :
      InspectedAs site template settings table collaborators ⟨.noMatch .notAnnotated, [], []⟩
  | prefixFiltered {t : Template} (ht : template = some t) (h : site.IsFilteredOut settings) :
      InspectedAs site template settings table collaborators ⟨.noMatch .prefixFiltered, [], []⟩
  | containsComments {t : Template} (ht : template = some t)
      (hselected : ¬ site.IsFilteredOut settings) (h : site.IsCommented settings) :
      InspectedAs site template settings table collaborators ⟨.noMatch .containsComments, [], []⟩
  | deleted {t : Template} {statement : TextRange} {receiver : Expression}
      (ht : template = some t) (hopen : site.IsOpen settings)
      (h : site.IsPassThrough t statement receiver)
      (hpure : collaborators.hasSideEffect receiver = false) :
      InspectedAs site template settings table collaborators
        ⟨.found (deletion (Api.ofTarget site.target t) t statement), [receiver], []⟩
  | replaced {t : Template} {asked : List Expression} {verdict : Verdict} {fixes : List Fix}
      (ht : template = some t) (hopen : site.IsOpen settings)
      (hkept : site.KeepsStatement t collaborators asked)
      (h : site.ConfirmedAs t settings collaborators (site.callFix t table) verdict fixes) :
      InspectedAs site template settings table collaborators ⟨verdict, asked, fixes⟩

variable {site : CallSite} {t : Template} {template : Option Template} {settings : Settings}
  {table : ImportTable} {collaborators others : Collaborators} {inspection : Inspection}
  {statement : TextRange} {receiver : Expression} {asked : List Expression}
  {fix : Fix} {verdict : Verdict} {fixes : List Fix}

section Filters

theorem matchesPrefixes_eq_false_iff :
    (Api.ofTarget site.target t).matchesPrefixes settings.prefixes = false ↔
      site.IsFilteredOut settings := by
  simp [Api.matchesPrefixes, IsFilteredOut, Api.id, Api.ofTarget]

theorem skipsComments_iff :
    (settings.skipComments && Comment.hasComment site.call.text) = true ↔
      site.IsCommented settings := by
  rw [IsCommented, Bool.and_eq_true]

/-- Past the prefixes and the comments, inlining migrates the call. -/
theorem IsOpen.inline_eq (h : site.IsOpen settings) :
    site.inline (some t) settings table collaborators =
      site.migrate (Api.ofTarget site.target t) t settings table collaborators := by
  have hselected := mt (matchesPrefixes_eq_false_iff (t := t)).mp h.selected
  have huncommented := mt skipsComments_iff.mp h.uncommented
  unfold inline
  simp only [Bool.not_eq_true', if_neg hselected, if_neg huncommented]

end Filters

section Statements

theorem deletable?_eq_some_iff :
    site.deletable? t = some (statement, receiver) ↔ site.IsPassThrough t statement receiver := by
  unfold deletable?
  constructor
  · intro h
    split at h
    · next hall =>
        split at h
        · next hstatement hreceiver =>
            obtain ⟨rfl, rfl⟩ := Prod.mk.inj (Option.some.inj h)
            exact ⟨hall.1, hall.2, hreceiver, hstatement⟩
        · cases h
    · cases h
  · intro h
    rw [if_pos ⟨h.template, h.text⟩, h.statement, h.receiver]

/-- A call goes with at most one statement and one receiver. -/
theorem IsPassThrough.unique {statement' : TextRange} {receiver' : Expression}
    (h : site.IsPassThrough t statement receiver) (h' : site.IsPassThrough t statement' receiver') :
    statement = statement' ∧ receiver = receiver' :=
  ⟨Option.some.inj (h.statement.symm.trans h'.statement),
    Option.some.inj (h.receiver.symm.trans h'.receiver)⟩

/-- A statement that could go stays only for a receiver with a side effect. -/
theorem KeepsStatement.hasSideEffect (h : site.KeepsStatement t collaborators asked)
    (hpass : site.IsPassThrough t statement receiver) :
    collaborators.hasSideEffect receiver = true := by
  cases h with
  | unasked hnone => exact absurd hpass (hnone _ _)
  | sideEffect hpass' heffect =>
      obtain ⟨-, rfl⟩ := hpass.unique hpass'
      exact heffect

theorem KeepsStatement.mem_asked_iff (h : site.KeepsStatement t collaborators asked) :
    receiver ∈ asked ↔ ∃ statement, site.IsPassThrough t statement receiver := by
  cases h with
  | unasked hnone => simp [hnone]
  | @sideEffect statement' receiver' hpass heffect =>
      rw [List.mem_singleton]
      constructor
      · rintro rfl
        exact ⟨statement', hpass⟩
      · rintro ⟨statement, hpass'⟩
        exact (hpass'.unique hpass).2

theorem KeepsStatement.length_asked (h : site.KeepsStatement t collaborators asked) :
    asked.length ≤ 1 := by
  cases h with
  | unasked => exact Nat.zero_le 1
  | sideEffect => exact Nat.le_refl 1

theorem KeepsStatement.congr (h : site.KeepsStatement t collaborators asked)
    (hagree : ∀ receiver ∈ asked,
      others.hasSideEffect receiver = collaborators.hasSideEffect receiver) :
    site.KeepsStatement t others asked := by
  cases h with
  | unasked hnone => exact .unasked hnone
  | sideEffect hpass heffect =>
      exact .sideEffect hpass ((hagree _ (List.mem_singleton_self _)).trans heffect)

/-- The statement of an open call goes or stays. -/
theorem exists_keepsStatement_or (site : CallSite) (t : Template) (collaborators : Collaborators) :
    (∃ asked, site.KeepsStatement t collaborators asked) ∨
      ∃ statement receiver, site.IsPassThrough t statement receiver ∧
        collaborators.hasSideEffect receiver = false := by
  by_cases hpass : ∃ statement receiver, site.IsPassThrough t statement receiver
  · obtain ⟨statement, receiver, hpass⟩ := hpass
    cases heffect : collaborators.hasSideEffect receiver with
    | true => exact Or.inl ⟨_, .sideEffect hpass heffect⟩
    | false => exact Or.inr ⟨_, _, hpass, heffect⟩
  · exact Or.inl ⟨_, .unasked fun statement receiver h => hpass ⟨statement, receiver, h⟩⟩

/-- Where the statement stays, migrating the call means confirming its fix. -/
theorem KeepsStatement.migrate_eq (h : site.KeepsStatement t collaborators asked) (api : Api) :
    site.migrate api t settings table collaborators =
      site.confirm api t settings collaborators (site.callFix t table) asked := by
  unfold migrate
  cases h with
  | unasked hnone =>
      have hnot : site.deletable? t = none := by
        rw [Option.eq_none_iff_forall_ne_some]
        rintro ⟨statement, receiver⟩ hsome
        exact hnone _ _ (deletable?_eq_some_iff.mp hsome)
      rw [hnot]
  | sideEffect hpass heffect =>
      simp [deletable?_eq_some_iff.mpr hpass, heffect]

end Statements

section Confirmation

theorem mustCompile_iff :
    (settings.checkFixCompiles && !fix.addsImports) = true ↔ settings.MustCompile fix := by
  rw [Bool.and_eq_true, Bool.not_eq_true']
  exact ⟨fun h => ⟨h.1, h.2⟩, fun h => ⟨h.checked, h.noImports⟩⟩

theorem ConfirmedAs.confirm_eq (h : site.ConfirmedAs t settings collaborators fix verdict fixes)
    (asked : List Expression) :
    site.confirm (Api.ofTarget site.target t) t settings collaborators fix asked =
      ⟨verdict, asked, fixes⟩ := by
  unfold confirm
  cases h with
  | unchecked h => rw [if_neg (mt mustCompile_iff.mp h)]
  | unavailable h hnone => rw [if_pos (mustCompile_iff.mpr h), hnone]
  | rejected h hsome hfix => simp [mustCompile_iff.mpr h, hsome, hfix]
  | accepted h hsome hfix => simp [mustCompile_iff.mpr h, hsome, hfix]

theorem exists_confirmedAs (site : CallSite) (t : Template) (settings : Settings)
    (collaborators : Collaborators) (fix : Fix) :
    ∃ verdict fixes, site.ConfirmedAs t settings collaborators fix verdict fixes := by
  by_cases hmust : settings.MustCompile fix
  · cases hcompiles : collaborators.compiles with
    | none => exact ⟨_, _, .unavailable hmust hcompiles⟩
    | some compiles =>
        cases hfix : compiles fix with
        | false => exact ⟨_, _, .rejected hmust hcompiles hfix⟩
        | true => exact ⟨_, _, .accepted hmust hcompiles hfix⟩
  · exact ⟨_, _, .unchecked hmust⟩

/-- A fix is asked to compile where it must, if there is somebody to ask. -/
theorem ConfirmedAs.fixes_eq (h : site.ConfirmedAs t settings collaborators fix verdict fixes) :
    settings.MustCompile fix ∧ collaborators.compiles.isSome = true ∧ fixes = [fix] ∨
      ¬ (settings.MustCompile fix ∧ collaborators.compiles.isSome = true) ∧ fixes = [] := by
  cases h with
  | unchecked h => exact Or.inr ⟨fun hasks => h hasks.1, rfl⟩
  | unavailable h hnone => exact Or.inr ⟨fun hasks => by simp [hnone] at hasks, rfl⟩
  | rejected h hsome => exact Or.inl ⟨h, by simp [hsome], rfl⟩
  | accepted h hsome => exact Or.inl ⟨h, by simp [hsome], rfl⟩

theorem ConfirmedAs.congr (h : site.ConfirmedAs t settings collaborators fix verdict fixes)
    (hagree : ∀ fix ∈ fixes, others.compiles.map (· fix) = collaborators.compiles.map (· fix))
    (hunavailable : verdict = .noMatch .verifierUnavailable → others.compiles = none) :
    site.ConfirmedAs t settings others fix verdict fixes := by
  have hanswer : ∀ {compiles : Fix → Bool}, fix ∈ fixes → collaborators.compiles = some compiles →
      ∃ compiles', others.compiles = some compiles' ∧ compiles' fix = compiles fix := by
    intro compiles hmem hsome
    have hsame := hagree fix hmem
    rw [hsome] at hsame
    exact Option.map_eq_some_iff.mp hsame
  cases h with
  | unchecked h => exact .unchecked h
  | unavailable h hnone => exact .unavailable h (hunavailable rfl)
  | rejected h hsome hfix =>
      obtain ⟨compiles', hsome', hsame⟩ := hanswer (List.mem_singleton_self _) hsome
      exact .rejected h hsome' (hsame.trans hfix)
  | accepted h hsome hfix =>
      obtain ⟨compiles', hsome', hsame⟩ := hanswer (List.mem_singleton_self _) hsome
      exact .accepted h hsome' (hsame.trans hfix)

end Confirmation

section Inspection

/-- The gates determine what inlining comes to. -/
theorem InspectedAs.inline_eq
    (h : site.InspectedAs template settings table collaborators inspection) :
    site.inline template settings table collaborators = inspection := by
  cases h with
  | notAnnotated h => rw [h, inline]
  | prefixFiltered ht h =>
      rw [ht, inline]
      simp [matchesPrefixes_eq_false_iff.mpr h]
  | @containsComments t ht hselected h =>
      have hmatches := mt (matchesPrefixes_eq_false_iff (t := t)).mp hselected
      rw [ht, inline]
      simp only [Bool.not_eq_true', if_neg hmatches, if_pos (skipsComments_iff.mpr h)]
  | deleted ht hopen h hpure =>
      rw [ht, hopen.inline_eq, migrate]
      simp [deletable?_eq_some_iff.mpr h, hpure]
  | replaced ht hopen hkept h =>
      rw [ht, hopen.inline_eq, hkept.migrate_eq, h.confirm_eq]

/-- The gates leave no call without an answer. -/
theorem exists_inspectedAs (site : CallSite) (template : Option Template) (settings : Settings)
    (table : ImportTable) (collaborators : Collaborators) :
    ∃ inspection, site.InspectedAs template settings table collaborators inspection := by
  cases template with
  | none => exact ⟨_, .notAnnotated rfl⟩
  | some t =>
      by_cases hfiltered : site.IsFilteredOut settings
      · exact ⟨_, .prefixFiltered rfl hfiltered⟩
      by_cases hcommented : site.IsCommented settings
      · exact ⟨_, .containsComments rfl hfiltered hcommented⟩
      have hopen : site.IsOpen settings := ⟨hfiltered, hcommented⟩
      rcases exists_keepsStatement_or site t collaborators with
        ⟨asked, hkept⟩ | ⟨statement, receiver, hpass, hpure⟩
      · obtain ⟨verdict, fixes, h⟩ :=
          exists_confirmedAs site t settings collaborators (site.callFix t table)
        exact ⟨_, .replaced rfl hopen hkept h⟩
      · exact ⟨_, .deleted rfl hopen hpass hpure⟩

theorem inspectedAs_iff :
    site.InspectedAs template settings table collaborators inspection ↔
      site.inline template settings table collaborators = inspection := by
  constructor
  · exact InspectedAs.inline_eq
  · rintro rfl
    obtain ⟨inspection, h⟩ := exists_inspectedAs site template settings table collaborators
    rw [h.inline_eq]
    exact h

/-- A call is inspected as inlining inspects it. -/
theorem inspectedAs_inline (site : CallSite) (template : Option Template) (settings : Settings)
    (table : ImportTable) (collaborators : Collaborators) :
    site.InspectedAs template settings table collaborators
      (site.inline template settings table collaborators) :=
  inspectedAs_iff.mpr rfl

/-- Of the side effects of expressions, only those of a receiver are asked about with which the
statement of an open call could go. -/
theorem InspectedAs.mem_sideEffectQueries_iff
    (h : site.InspectedAs template settings table collaborators inspection) :
    receiver ∈ inspection.sideEffectQueries ↔
      ∃ t statement, template = some t ∧ site.IsOpen settings ∧
        site.IsPassThrough t statement receiver := by
  cases h with
  | notAnnotated h => simp [h]
  | prefixFiltered ht h =>
      have hclosed : ¬ site.IsOpen settings := fun hopen => hopen.selected h
      simp [hclosed]
  | containsComments ht hselected h =>
      have hclosed : ¬ site.IsOpen settings := fun hopen => hopen.uncommented h
      simp [hclosed]
  | @deleted t statement receiver' ht hopen h hpure =>
      rw [List.mem_singleton]
      constructor
      · rintro rfl
        exact ⟨t, statement, ht, hopen, h⟩
      · rintro ⟨t', statement', ht', -, h'⟩
        obtain rfl := Option.some.inj (ht.symm.trans ht')
        exact (h'.unique h).2
  | @replaced t asked verdict fixes ht hopen hkept h =>
      rw [hkept.mem_asked_iff]
      constructor
      · rintro ⟨statement, hpass⟩
        exact ⟨t, statement, ht, hopen, hpass⟩
      · rintro ⟨t', statement, ht', -, hpass⟩
        obtain rfl := Option.some.inj (ht.symm.trans ht')
        exact ⟨statement, hpass⟩

/-- Only the fix of an open call that keeps its statement is asked to compile, where it must. -/
theorem InspectedAs.mem_compileQueries_iff
    (h : site.InspectedAs template settings table collaborators inspection) :
    fix ∈ inspection.compileQueries ↔
      ∃ t, template = some t ∧ site.IsOpen settings ∧
        (∀ statement receiver, site.IsPassThrough t statement receiver →
          collaborators.hasSideEffect receiver = true) ∧
        fix = site.callFix t table ∧ settings.MustCompile fix ∧
        collaborators.compiles.isSome = true := by
  cases h with
  | notAnnotated h => simp [h]
  | prefixFiltered ht h =>
      have hclosed : ¬ site.IsOpen settings := fun hopen => hopen.selected h
      simp [hclosed]
  | containsComments ht hselected h =>
      have hclosed : ¬ site.IsOpen settings := fun hopen => hopen.uncommented h
      simp [hclosed]
  | @deleted t statement receiver ht hopen h hpure =>
      constructor
      · intro hmem
        cases hmem
      · rintro ⟨t', ht', -, heffect, -⟩
        obtain rfl := Option.some.inj (ht.symm.trans ht')
        simp [heffect _ _ h] at hpure
  | @replaced t asked verdict fixes ht hopen hkept h =>
      rcases h.fixes_eq with ⟨hmust, hsome, rfl⟩ | ⟨hnot, rfl⟩
      · rw [List.mem_singleton]
        constructor
        · rintro rfl
          exact ⟨t, ht, hopen, fun _ _ => hkept.hasSideEffect, rfl, hmust, hsome⟩
        · rintro ⟨t', ht', -, -, rfl, -⟩
          obtain rfl := Option.some.inj (ht.symm.trans ht')
          rfl
      · constructor
        · intro hmem
          cases hmem
        · rintro ⟨t', ht', -, -, rfl, hasks⟩
          obtain rfl := Option.some.inj (ht.symm.trans ht')
          exact absurd hasks hnot

theorem InspectedAs.length_queries
    (h : site.InspectedAs template settings table collaborators inspection) :
    inspection.sideEffectQueries.length ≤ 1 ∧ inspection.compileQueries.length ≤ 1 := by
  cases h with
  | notAnnotated => simp
  | prefixFiltered => simp
  | containsComments => simp
  | deleted => simp
  | replaced ht hopen hkept h =>
      refine ⟨hkept.length_asked, ?_⟩
      rcases h.fixes_eq with ⟨-, -, rfl⟩ | ⟨-, rfl⟩
      · exact Nat.le_refl 1
      · exact Nat.zero_le 1

/-- A call is left alone for want of somebody to ask only where there is nobody. -/
theorem InspectedAs.compiles_eq_none
    (h : site.InspectedAs template settings table collaborators inspection)
    (hunavailable : inspection.verdict = .noMatch .verifierUnavailable) :
    collaborators.compiles = none := by
  cases h with
  | notAnnotated => cases hunavailable
  | prefixFiltered => cases hunavailable
  | containsComments => cases hunavailable
  | deleted => cases hunavailable
  | replaced ht hopen hkept h =>
      cases h with
      | unchecked => cases hunavailable
      | unavailable _ hnone => exact hnone
      | rejected => cases hunavailable
      | accepted => cases hunavailable

/-- Collaborators that answer alike what is asked are not told apart. -/
theorem InspectedAs.congr
    (h : site.InspectedAs template settings table collaborators inspection)
    (hagree : collaborators.AgreeOn others inspection) :
    site.InspectedAs template settings table others inspection := by
  cases h with
  | notAnnotated h => exact .notAnnotated h
  | prefixFiltered ht h => exact .prefixFiltered ht h
  | containsComments ht hselected h => exact .containsComments ht hselected h
  | deleted ht hopen h hpure =>
      have hsame := hagree.hasSideEffect _ (List.mem_singleton_self _)
      exact .deleted ht hopen h (hsame.trans hpure)
  | replaced ht hopen hkept h =>
      exact .replaced ht hopen (hkept.congr hagree.hasSideEffect)
        (h.congr hagree.compiles hagree.unavailable)

end Inspection

end CallSite

end CallMigration
