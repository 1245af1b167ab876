import CallMigration.Proofs.Expression
import CallMigration.Proofs.Finding.Imports
import CallMigration.Proofs.Inlining

/-!
# Effects that are deleted

Where a template says that a call amounts to its receiver, the statement of the call goes away if
the receiver has no side effect. Judged by its spelling, a receiver shows an effect and goes away
all the same exactly if it hides the effect between two literals (`CallSite.showsEffect_of_found`).
-/

namespace CallMigration

namespace CallSite

open Expression

/-- **Which effects are deleted.** An expression that shows an effect outside its literals is taken
to have none exactly if it hides it. So where receivers are judged by their spelling, a finding for
a call on the expression that deletes the statement deletes an effect that shows exactly if it is
hidden. -/
theorem showsEffect_of_found (e : Expression) :
    (e.mayHaveSideEffect = false ∧ ShowsEffect (Text.trim e.text.toList) ↔
      HidesEffect (Text.trim e.text.toList)) ∧
    ∀ (site : CallSite) (t : Template) (settings : Settings) (table : ImportTable)
      (compiles : Option (Fix → Bool)) (finding : Finding), site.receiver? = some e →
      (site.inline (some t) settings table ⟨mayHaveSideEffect, compiles⟩).verdict =
          .found finding →
        finding = site.replacement (Api.ofTarget site.target t) t (site.callFix t table) ∨
          ∃ statement, site.IsPassThrough t statement e ∧
            finding = deletion (Api.ofTarget site.target t) t statement ∧
            (ShowsEffect (Text.trim e.text.toList) ↔ HidesEffect (Text.trim e.text.toList)) := by
  refine ⟨misjudged_iff, ?_⟩
  intro site t settings table compiles finding hreceiver hfound
  obtain ⟨t', ht, -, ⟨statement, receiver, hpass, hpure, hfinding⟩ | ⟨-, hfinding, -⟩⟩ :=
    verdict_inline hfound
  · obtain rfl := Option.some.inj ht
    obtain rfl : receiver = e := Option.some.inj (hpass.receiver.symm.trans hreceiver)
    refine Or.inr ⟨statement, hpass, hfinding, fun hshows => ?_, fun hhides => ?_⟩
    · exact misjudged_iff.mp ⟨hpure, hshows⟩
    · exact (misjudged_iff.mpr hhides).2
  · obtain rfl := Option.some.inj ht
    exact Or.inl hfinding

/-- A sum with a call between two literals. -/
def sumWithCall : Expression := ⟨⟨22, 37⟩, "\"a\" + f() + \"b\""⟩

/-- A call on that sum, which stands in brackets, in a statement of its own, as it stands in
`class A { void m() { ("a" + f() + "b").noop(); } }`. -/
def callOnSum : CallSite where
  kind := .method (some sumWithCall) none
  target := ⟨"w.W", "noop", "w", [], false, false, false⟩
  arguments := []
  call := ⟨⟨21, 45⟩, "(\"a\" + f() + \"b\").noop()"⟩
  statement := some ⟨21, 46⟩
  arguments_fit := rfl
  receiver_within := rfl

/-- A template that says that the call amounts to its receiver. -/
def receiverTemplate : Template := Finding.importing [] "this" rfl

/-- The finding that deletes the statement of that call. -/
def sumDeletion : Finding :=
  deletion (Api.ofTarget callOnSum.target receiverTemplate) receiverTemplate ⟨21, 46⟩

theorem verdict_callOnSum :
    (callOnSum.inline (some receiverTemplate) .default .empty ⟨mayHaveSideEffect, none⟩).verdict =
      .found sumDeletion := by
  decide +kernel

/-- The bracket of the call stands behind the first literal. -/
theorem behind_sumWithCall :
    ∃ literal after, Text.bytesOf (Text.trim sumWithCall.text.toList) = literal ++ after ∧
      Comment.IsLexeme literal after ∧ StandsOutside '(' after := by
  have htext : Text.trim sumWithCall.text.toList =
      "\"a\"".toList ++ (" + f".toList ++ "() + \"b\"".toList) := by decide
  have hbody : Comment.LiteralBody Comment.doubleQuote (Text.bytesOf "a".toList) :=
    .plain (by decide) (by decide) .nil
  refine ⟨_, _, (congrArg Text.bytesOf htext).trans (Text.bytesOf_append ..),
    .literal (Or.inl rfl) (by decide) hbody (Or.inl rfl), ?_⟩
  rw [Text.bytesOf_append]
  exact .behind_text (by decide) (by decide) (by decide) (.here (by decide))

/-- A call between two literals is not seen, and its statement is deleted. -/
theorem callOnSum_deleted :
    sumWithCall.mayHaveSideEffect = false ∧
      StandsOutside '(' (Text.bytesOf (Text.trim sumWithCall.text.toList)) ∧
      callOnSum.receiver? = some sumWithCall ∧
      (callOnSum.inline (some receiverTemplate) .default .empty
        ⟨mayHaveSideEffect, none⟩).verdict = .found sumDeletion := by
  obtain ⟨literal, after, hsplit, hliteral, hafter⟩ := behind_sumWithCall
  refine ⟨by decide, ?_, rfl, verdict_callOnSum⟩
  rw [hsplit]
  exact .behind hliteral hafter

/-- The statement goes away with an effect, which its receiver hides. -/
theorem showsEffect_of_found_callOnSum :
    callOnSum.receiver? = some sumWithCall ∧
      ∃ statement, callOnSum.IsPassThrough receiverTemplate statement sumWithCall ∧
        sumDeletion = deletion (Api.ofTarget callOnSum.target receiverTemplate) receiverTemplate
          statement ∧
        HidesEffect (Text.trim sumWithCall.text.toList) ∧
        ShowsEffect (Text.trim sumWithCall.text.toList) := by
  obtain ⟨literal, after, hsplit, hliteral, hafter⟩ := behind_sumWithCall
  have hhides : HidesEffect (Text.trim sumWithCall.text.toList) :=
    ⟨Or.inl (by decide), literal, after, hsplit, hliteral, '(', by decide, hafter⟩
  obtain hreplacement | ⟨statement, hpass, hdeletion, heffect⟩ :=
    (showsEffect_of_found sumWithCall).2 callOnSum receiverTemplate .default .empty none sumDeletion
      rfl verdict_callOnSum
  · exact absurd hreplacement (by decide +kernel)
  · exact ⟨rfl, statement, hpass, hdeletion, hhides, heffect.mpr hhides⟩

end CallSite

end CallMigration
