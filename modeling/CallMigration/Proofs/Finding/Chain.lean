import CallMigration.Proofs.Finding.Application
import CallMigration.Proofs.Inlining.Narrowing

/-!
# Fluent chains

The calls of a fluent chain all begin where the chain does, so that each lies inside the next. Fixes
that leave the receiver in place replace the links alone, one behind the other
(`Finding.FluentChain.tiles`), and edits of neighbouring stretches of text are all made, in whatever
order they are given (`Edit.Tiles.applyAll_of_perm`).
-/

namespace CallMigration

namespace Edit

/-- Edits that replace neighbouring stretches of text, none of them empty, from an offset on. -/
inductive Tiles : Nat → List (List Char) → List Edit → Prop
  | nil (offset : Nat) : Tiles offset [] []
  | cons {offset : Nat} {stretch : List Char} {stretches : List (List Char)} {e : Edit}
      {edits : List Edit} (hne : stretch ≠ [])
      (hrange : e.range = ⟨offset, offset + Text.byteLength stretch⟩)
      (hrest : Tiles (offset + Text.byteLength stretch) stretches edits) :
      Tiles offset (stretch :: stretches) (e :: edits)

namespace Tiles

variable {offset : Nat} {stretches : List (List Char)} {edits order : List Edit}

theorem byteLength_pos {stretch : List Char} (h : stretch ≠ []) : 0 < Text.byteLength stretch :=
  Nat.pos_of_ne_zero fun hzero => h (Text.byteLength_eq_zero_iff.mp hzero)

/-- None of the edits begins in front of the offset, and none only inserts. -/
theorem start_lt_stop (h : Tiles offset stretches edits) :
    ∀ e ∈ edits, offset ≤ e.range.start ∧ e.range.start < e.range.stop := by
  induction h with
  | nil offset => simp
  | @cons offset stretch stretches e edits hne hrange hrest ih =>
      have hpos := byteLength_pos hne
      intro f hf
      rcases List.mem_cons.mp hf with rfl | hf
      · rw [hrange]
        exact ⟨Nat.le_refl _, by simp only; omega⟩
      · obtain ⟨hstart, hstop⟩ := ih f hf
        exact ⟨by omega, hstop⟩

/-- Each edit ends before the next one begins. -/
theorem pairwise_precedes (h : Tiles offset stretches edits) : edits.Pairwise Precedes := by
  induction h with
  | nil offset => exact .nil
  | @cons offset stretch stretches e edits hne hrange hrest ih =>
      have hpos := byteLength_pos hne
      refine List.pairwise_cons.mpr ⟨?_, ih⟩
      intro f hf
      obtain ⟨hstart, hstop⟩ := hrest.start_lt_stop f hf
      refine ⟨by rw [hrange]; exact hstart, ?_⟩
      rw [← Bool.not_eq_true, overlaps_iff, hrange]
      simp only
      omega

/-- Every edit has its place in a text that holds the stretches from the offset on. -/
theorem fitsIn {before after : List Char} (h : Tiles offset stretches edits)
    (hoffset : Text.byteLength before = offset) :
    ∀ e ∈ edits, e.FitsIn (before ++ stretches.flatten ++ after) := by
  induction h generalizing before with
  | nil offset => simp
  | @cons offset stretch stretches e edits hne hrange hrest ih =>
      have hnext : Text.byteLength (before ++ stretch) = offset + Text.byteLength stretch := by
        rw [Text.byteLength_append, hoffset]
      have hmoved : before ++ (stretch :: stretches).flatten ++ after =
          before ++ stretch ++ stretches.flatten ++ after := by simp
      intro f hf
      rcases List.mem_cons.mp hf with rfl | hf
      · refine ⟨before, stretch, stretches.flatten ++ after, TextRange.cut?_eq_some_iff.mpr ?_⟩
        rw [hrange]
        exact ⟨by simp, hoffset, hnext⟩
      · rw [hmoved]
        exact ih hnext f hf

/-- The walk puts the texts of the edits in the places of the stretches. -/
theorem spliceFrom_eq (h : Tiles offset stretches edits) (after : List Char) :
    spliceFrom edits.reverse offset (stretches.flatten ++ after) =
      edits.flatMap (·.text.toList) ++ after := by
  induction h with
  | nil offset =>
      have hskip : spliceFrom [] offset (after ++ []) =
          after ++ spliceFrom [] (offset + Text.byteLength after) [] := spliceFrom_skip (by simp)
      simpa [spliceFrom, textsAt] using hskip
  | @cons offset stretch stretches e edits hne hrange hrest ih =>
      have hprecedes : ∀ f ∈ edits.reverse, e.Precedes f := fun f hf =>
        (List.pairwise_cons.mp (Tiles.cons hne hrange hrest).pairwise_precedes).1 f
          (List.mem_reverse.mp hf)
      have hfirst : spliceFrom (edits.reverse ++ [e]) e.range.start
          (stretch ++ (stretches.flatten ++ after)) =
            e.text.toList ++ spliceFrom edits.reverse e.range.stop (stretches.flatten ++ after) :=
        spliceFrom_first (by rw [hrange]) hprecedes
      rw [hrange] at hfirst
      rw [List.reverse_cons, List.flatten_cons, List.append_assoc, hfirst, ih]
      simp

/-- **Neighbouring edits are all made.** In whatever order they are given, none is put off, and each
text comes to stand in the place of its stretch. -/
theorem applyAll_of_perm {source : String} {before after : List Char}
    (h : Tiles offset stretches edits) (hoffset : Text.byteLength before = offset)
    (hsource : source.toList = before ++ stretches.flatten ++ after) (horder : order.Perm edits) :
    Edit.applyAll source order =
      .ok ⟨String.ofList (before ++ edits.flatMap (·.text.toList) ++ after), order.length, []⟩ := by
  have hfits : ∀ e ∈ edits, e.FitsIn source.toList := by
    rw [hsource]
    exact h.fitsIn hoffset
  have hvalid : ∀ e ∈ order, e.validate source = .ok () :=
    fun e he => validate_eq_ok_iff.mpr (hfits e (horder.mem_iff.mp he))
  have hfree : order.Pairwise fun e f => e.overlaps f = false :=
    horder.symm.pairwise (h.pairwise_precedes.imp fun hef => hef.2)
      fun {e f} hef => by rw [overlaps_comm]; exact hef
  have hreverse : order.Perm edits.reverse := horder.trans edits.reverse_perm.symm
  have hstart : ∀ e ∈ edits.reverse, 0 + Text.byteLength before ≤ e.range.start := by
    intro e he
    have := (h.start_lt_stop e (List.mem_reverse.mp he)).1
    omega
  have hmade : makeAll source order =
      String.ofList (before ++ edits.flatMap (·.text.toList) ++ after) :=
    calc makeAll source order
        = splice source order := makeAll_eq_splice hvalid hfree
      _ = splice source edits.reverse :=
          splice_perm hreverse (fun e he => start_le_stop_of_validate (hvalid e he)) hfree
      _ = String.ofList (before ++ edits.flatMap (·.text.toList) ++ after) := by
          rw [splice, hsource, List.append_assoc, spliceFrom_skip hstart, Nat.zero_add, hoffset,
            h.spliceFrom_eq, List.append_assoc]
  rw [applyAll_of_valid hvalid, Selection.firstCome_of_pairwise hfree, hmade]

end Tiles

end Edit

namespace Finding

variable {source : String} {findings : List Finding}

/-- Whether a finding answers a call on a receiver, by a template that begins with `this.`, and adds
no imports. -/
def AnswersLink (f : Finding) (call receiver : TextRange) : Prop :=
  ∃ (site : CallSite) (expression : Expression) (keyword : Option SelfKeyword) (t : Template)
    (settings : Settings) (table : ImportTable) (collaborators : Collaborators) (found : Finding),
    site.kind = .method (some expression) keyword ∧ expression.range = receiver ∧
      site.call.range = call ∧ "this.".toList <+: t.replacement.toList ∧
      (site.inline (some t) settings table collaborators).verdict = .found found ∧
      f.fix = found.fix ∧ found.fix.addsImports = false

/-- Findings that answer the calls of a fluent chain from an offset on: each call begins with the
chain and adds a link to the receiver before it, which ends at the given offset. -/
inductive FluentChain (start : Nat) : Nat → List (List Char) → List Finding → Prop
  | nil (stop : Nat) : FluentChain start stop [] []
  | cons {stop : Nat} {link : List Char} {links : List (List Char)} {f : Finding}
      {findings : List Finding} (hne : link ≠ [])
      (hlink : f.AnswersLink ⟨start, stop + Text.byteLength link⟩ ⟨start, stop⟩)
      (hrest : FluentChain start (stop + Text.byteLength link) links findings) :
      FluentChain start stop (link :: links) (f :: findings)

/-- A link is answered by an edit of the link alone. -/
theorem AnswersLink.edit_range {f : Finding} {call receiver : TextRange}
    (h : f.AnswersLink call receiver) :
    f.edit.range = ⟨receiver.stop, call.stop⟩ ∧ f.fix.imports = .none := by
  obtain ⟨site, expression, keyword, t, settings, table, collaborators, found, hkind, rfl, rfl,
    hthis, hverdict, hfix, himports⟩ := h
  have hcall := CallSite.fix_of_verdict_inline hthis hverdict
  constructor
  · rw [edit, hfix, hcall]
    exact CallSite.range_callFix_of_receiver (CallSite.receiver?_of_kind hkind) hthis
  · have hempty : found.fix.imports.types = [] ∧ found.fix.imports.statics = [] := by
      simpa [Fix.addsImports, NewImports.isEmpty] using himports
    rw [hfix]
    exact congrArg₂ NewImports.mk hempty.1 hempty.2

/-- The calls of a chain are nested, but their edits lie side by side. -/
theorem FluentChain.tiles {start stop : Nat} {links : List (List Char)}
    (h : FluentChain start stop links findings) :
    Edit.Tiles stop links (findings.map edit) ∧ ∀ f ∈ findings, f.fix.imports = .none := by
  induction h with
  | nil stop => exact ⟨.nil stop, by simp⟩
  | @cons stop link links f findings hne hlink hrest ih =>
      obtain ⟨hrange, himports⟩ := hlink.edit_range
      refine ⟨.cons hne hrange ih.1, ?_⟩
      intro g hg
      rcases List.mem_cons.mp hg with rfl | hg
      · exact himports
      · exact ih.2 g hg

/-- **A fluent chain is rewritten in one pass.** In whatever order the findings for its calls are
given, all of them are applied and none is put off, and behind the first receiver each link is
replaced by the text of its fix. -/
theorem applyAll_fluentChain {pre receiver post : List Char} {links : List (List Char)}
    {order : List Finding}
    (hsource : source.toList = pre ++ receiver ++ links.flatten ++ post)
    (hchain : FluentChain (Text.byteLength pre) (Text.byteLength (pre ++ receiver)) links findings)
    (horder : order.Perm findings) :
    applyAll source order =
      .ok ⟨String.ofList (pre ++ receiver ++ findings.flatMap (·.fix.edit.text.toList) ++ post),
        findings.length, 0⟩ := by
  obtain ⟨htiles, himports⟩ := hchain.tiles
  have hmade := htiles.applyAll_of_perm rfl hsource (horder.map edit)
  have hvalid := Edit.validateAll_eq_ok_iff.mpr (Edit.validate_of_applyAll hmade)
  have hfree : order.Pairwise fun f g => f.edit.overlaps g.edit = false := by
    have hpair := htiles.pairwise_precedes.imp fun hef => hef.2
    exact horder.symm.pairwise (List.pairwise_map.mp hpair)
      fun {f g} hfg => by rw [Edit.overlaps_comm]; exact hfg
  have hselected : select order = ⟨order, []⟩ := Selection.firstCome_of_pairwise hfree
  have hedits : editsOf source order = order.map edit :=
    editsOf_of_imports_none fun f hf => himports f (horder.mem_iff.mp hf)
  rw [applyAll_eq, hvalid]
  simp only [hselected, hedits, hmade, List.flatMap_map, horder.length_eq, List.length_nil]
  rfl

/-- A call of a method of one letter, in a chain that begins at offset 5. -/
def linkCall (receiver method : String) (stop : Nat) : CallSite where
  kind := .method (some ⟨⟨5, stop⟩, receiver⟩) none
  target := ⟨"w.Builder", method, "w", [], false, false, false⟩
  arguments := []
  call := ⟨⟨5, stop + 4⟩, receiver ++ "." ++ method ++ "()"⟩
  statement := none
  arguments_fit := rfl
  receiver_within := by simp [CallKind.receiverWithin, CallKind.receiver?, TextRange.contains]

/-- The finding that renames the method of such a call. -/
def renamed (site : CallSite) (replacement : String) (h : isBlankText replacement = false) :
    Finding :=
  site.replacement (Api.ofTarget site.target (importing [] replacement h))
    (importing [] replacement h) (site.callFix (importing [] replacement h) .empty)

/-- The first of two links. -/
def firstLink : Finding := renamed (linkCall "a" "f" 6) "this.open()" rfl

/-- The second of two links, whose receiver is the first. -/
def secondLink : Finding := renamed (linkCall "a.f()" "g" 10) "this.close()" rfl

/-- Two links behind a character of two bytes, their findings given last link first. -/
theorem applyAll_fluentChain_twoLinks :
    FluentChain 5 6 [".f()".toList, ".g()".toList] [firstLink, secondLink] ∧
      applyAll "é = a.f().g();" [secondLink, firstLink] =
        .ok ⟨"é = a.open().close();", 2, 0⟩ := by
  have hfirst : firstLink.AnswersLink ⟨5, 10⟩ ⟨5, 6⟩ :=
    ⟨linkCall "a" "f" 6, _, none, importing [] "this.open()" rfl, .default, .empty,
      ⟨fun _ => true, none⟩, firstLink, rfl, rfl, rfl, by decide, by decide +kernel, rfl,
      by decide +kernel⟩
  have hsecond : secondLink.AnswersLink ⟨5, 14⟩ ⟨5, 10⟩ :=
    ⟨linkCall "a.f()" "g" 10, _, none, importing [] "this.close()" rfl, .default,
      .empty, ⟨fun _ => true, none⟩, secondLink, rfl, rfl, rfl, by decide, by decide +kernel, rfl,
      by decide +kernel⟩
  have hchain : FluentChain 5 6 [".f()".toList, ".g()".toList] [firstLink, secondLink] :=
    .cons (by decide) hfirst (.cons (by decide) hsecond (.nil _))
  have hsource : "é = a.f().g();".toList = "é = ".toList ++ "a".toList ++
      [".f()".toList, ".g()".toList].flatten ++ ";".toList := by decide
  refine ⟨hchain, ?_⟩
  rw [applyAll_fluentChain hsource hchain (List.Perm.swap _ _ _)]
  decide +kernel

end Finding

end CallMigration
