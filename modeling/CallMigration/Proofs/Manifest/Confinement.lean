import CallMigration.Proofs.Finding.Imports
import CallMigration.Proofs.Manifest.Usable

/-!
# A call is rewritten in its own place

The fix of a call ends where the call does. It begins with the call, or behind the receiver where
the template goes on behind its leading `this`. Loading has read both ranges off the source and a
call site holds its receiver, so that the fix is a valid edit inside the call. Made alone, it keeps
every byte in front of it, the receiver among them, and every byte behind the call.

* `Edit.toUTF8_of_cut?`: what a single edit does to the bytes of a source;
* `CallSite.ReadFrom.confines`: where the fix of a call that is read off a source lies;
* `LoadedManifest.confines_of_found`: the same of all that is found for the entries of a loaded
  manifest and keeps the statement.
-/

namespace CallMigration

namespace TextRange

variable {r : TextRange} {source : String} {a m b : List Char}

/-- A range in the beginning of a text names the same piece whatever follows. -/
theorem slice?_of_append {piece : String} {rest rest' : List Char}
    (hsource : source.toList = a ++ rest) (hwithin : r.stop ≤ Text.byteLength a)
    (h : r.slice? source = some piece) :
    r.slice? (String.ofList (a ++ rest')) = some piece := by
  obtain ⟨before, after, hcut⟩ := slice?_eq_some_iff.mp h
  obtain ⟨htext, hstart, hstop⟩ := cut?_eq_some_iff.mp hcut
  obtain ⟨between, rfl, -⟩ := Text.exists_between (htext.symm.trans hsource) (by omega)
  rw [slice?_eq_some_iff, String.toList_ofList]
  exact ⟨before, between ++ rest', cut?_eq_some_iff.mpr ⟨by simp, hstart, hstop⟩⟩

end TextRange

/-- **A single edit keeps what lies around it.** The source that it gives has the bytes before the
range, those of the text, and the bytes behind the range. -/
theorem Edit.toUTF8_of_cut? {source : String} {e : Edit} {a m b : List Char}
    (h : e.range.cut? source.toList = some (a, m, b)) :
    (String.ofList (a ++ e.text.toList ++ b)).toUTF8.toList =
      source.toUTF8.toList.take e.range.start ++ e.text.toUTF8.toList ++
        source.toUTF8.toList.drop e.range.stop := by
  obtain ⟨hbefore, -, hafter⟩ := TextRange.bytesOf_of_cut? h
  rw [← hbefore, ← hafter, Text.toList_toUTF8, Text.toList_toUTF8, String.toList_ofList,
    Text.bytesOf_append, Text.bytesOf_append]

namespace CallSite

/-- Whether an edit of a source rewrites a call in its own place, by what a template says. -/
structure Confines (site : CallSite) (t : Template) (source : String) (edit : Edit) : Prop where
  /-- The edit ends with the call. -/
  stop : edit.range.stop = site.call.range.stop
  /-- It begins behind the receiver if there is one and the template goes on behind `this`. -/
  behind : ∀ receiver, site.receiver? = some receiver → "this.".toList <+: t.replacement.toList →
    edit.range.start = receiver.range.stop
  /-- In all other cases it begins with the call. -/
  whole : site.receiver? = none ∨ ¬ "this.".toList <+: t.replacement.toList →
    edit.range.start = site.call.range.start
  within : site.call.range.contains edit.range = true
  valid : edit.validate source = .ok ()
  /-- Made alone, it keeps all bytes in front of it and all bytes behind the call. A receiver behind
  which it begins can still be read where it was. -/
  made : ∃ fixed, edit.apply source = .ok fixed ∧
    fixed.toUTF8.toList = source.toUTF8.toList.take edit.range.start ++
      edit.text.toUTF8.toList ++ source.toUTF8.toList.drop site.call.range.stop ∧
    ∀ receiver, site.receiver? = some receiver → "this.".toList <+: t.replacement.toList →
      receiver.range.slice? fixed = some receiver.text

/-- **A call is rewritten in its own place.** The fix of a call that is read off a source begins and
ends in the call, is valid for the source, and keeps what lies around it. -/
theorem ReadFrom.confines {site : CallSite} {source : String} (h : site.ReadFrom source)
    (t : Template) (table : ImportTable) :
    site.Confines t source (site.callFix t table).edit := by
  have hrange : (site.callFix t table).edit.range = site.editRange t := rfl
  generalize (site.callFix t table).edit = edit at hrange
  obtain ⟨a, m, b, hcut⟩ := h.cut?_editRange t
  rw [← hrange] at hcut
  obtain ⟨hsource, hstart, -⟩ := TextRange.cut?_eq_some_iff.mp hcut
  obtain ⟨hwithin, hstop⟩ := h.contains_editRange t
  rw [← hrange] at hwithin hstop
  have hbehind : ∀ receiver, site.receiver? = some receiver →
      "this.".toList <+: t.replacement.toList → edit.range.start = receiver.range.stop := by
    intro receiver hreceiver hthis
    rw [hrange, editRange_of_receiver hreceiver hthis]
  refine ⟨hstop, hbehind, ?whole, hwithin, Edit.validate_eq_ok_iff.mpr ⟨a, m, b, hcut⟩, ?made⟩
  case whole =>
    intro hwhole
    rw [hrange, editRange_of_whole hwhole]
  case made =>
    refine ⟨_, Edit.apply_of_cut? hcut, ?bytes, ?receiver⟩
    case bytes => rw [Edit.toUTF8_of_cut? hcut, hstop]
    case receiver =>
      intro receiver hreceiver hthis
      have hkept : receiver.range.stop = Text.byteLength a := by
        rw [hstart, hbehind receiver hreceiver hthis]
      rw [List.append_assoc] at hsource ⊢
      exact TextRange.slice?_of_append hsource (Nat.le_of_eq hkept) (h.receiver receiver hreceiver)

end CallSite

/-- Whether inlining an entry deletes its statement: the call amounts to its receiver, and
evaluating that has no side effect. -/
def ManifestEntry.DeletesStatement (e : ManifestEntry) (collaborators : Collaborators) : Prop :=
  ∃ t statement receiver, e.template = some t ∧ e.site.IsPassThrough t statement receiver ∧
    collaborators.hasSideEffect receiver = false

namespace LoadedManifest

/-- **What is found stays inside its call.** Let an entry of a loaded manifest be answered with a
finding that does not delete its statement. The finding spans the whole call. Its edit ends with the
call and begins with the call too, or with what follows the receiver if there is one and the
template begins with `this.`; it is valid for the source, and made alone it keeps every byte around
it. -/
theorem confines_of_found {sourcePath : Path} {source : String} {records : List CallRecord}
    {m : LoadedManifest} (h : ofRecords sourcePath source records = .ok m) {e : ManifestEntry}
    (he : e ∈ m.entries) {settings : Settings} {collaborators : Collaborators} {finding : Finding}
    (hfound : (e.site.inline e.template settings (.ofSource source) collaborators).verdict =
      .found finding)
    (hkept : ¬ e.DeletesStatement collaborators) :
    finding.span = .unlocated e.site.call.range ∧
      ∃ t, e.template = some t ∧ e.site.Confines t source finding.fix.edit := by
  obtain ⟨-, -, hentries⟩ := exists_record h
  obtain ⟨r, -, hsite, -⟩ := hentries e he
  have hread := (CallRecord.readFrom_of_site hsite).1
  obtain ⟨t, ht, -, ⟨statement, receiver, hpass, hpure, -⟩ | ⟨-, rfl, -⟩⟩ :=
    CallSite.verdict_inline hfound
  · exact absurd ⟨t, statement, receiver, ht, hpass, hpure⟩ hkept
  · exact ⟨rfl, t, ht, hread.confines t (.ofSource source)⟩

/-- A source with a call on a receiver with a character of two bytes, between two other calls. -/
def accentedSource : String := "x(); café.old(1); y();"

/-- The record of that call, whose template goes on behind `this`. -/
def accentedRecord : CallRecord where
  target := ⟨"w.W", "old", "w", ["a"], false, false, false⟩
  annotations := ⟨some ⟨"this.put(a)", [], []⟩, none⟩
  kind := .method
  call := ⟨5, 17⟩
  receiver := some ⟨5, 10⟩
  keyword := none
  className := none
  arguments := [⟨15, 16⟩]
  statement := some ⟨5, 18⟩
  receiverSideEffect := none

/-- The entry that is read off the source. -/
def accentedEntry : ManifestEntry where
  site := {
    kind := .method (some ⟨⟨5, 10⟩, "café"⟩) none
    target := accentedRecord.target
    arguments := ["1"]
    call := ⟨⟨5, 17⟩, "café.old(1)"⟩
    statement := some ⟨5, 18⟩
    arguments_fit := rfl
    receiver_within := rfl }
  template := some (Finding.importing [] "this.put(a)" rfl)

/-- Its finding replaces what follows the receiver, which stands in the result where it stood. -/
theorem confines_of_found_accented :
    ofRecords ⟨"A.java"⟩ accentedSource [accentedRecord] =
        .ok ⟨⟨"A.java"⟩, accentedSource, [accentedEntry], []⟩ ∧
      ∃ finding, (accentedEntry.site.inline accentedEntry.template .default
        (.ofSource accentedSource) ⟨fun _ => false, none⟩).verdict = .found finding ∧
      ¬ accentedEntry.DeletesStatement ⟨fun _ => false, none⟩ ∧
      finding.fix.edit.range.start = 10 ∧ finding.fix.edit.range.stop = 17 ∧
      ∃ fixed, finding.fix.edit.apply accentedSource = .ok fixed ∧
        (⟨5, 10⟩ : TextRange).slice? fixed = some "café" := by
  have hload : ofRecords ⟨"A.java"⟩ accentedSource [accentedRecord] =
      .ok ⟨⟨"A.java"⟩, accentedSource, [accentedEntry], []⟩ :=
    eq_ok_of_toOption (by decide +kernel)
  have hsome : (accentedEntry.site.inline accentedEntry.template .default
      (.ofSource accentedSource) ⟨fun _ => false, none⟩).verdict.finding?.isSome = true := by
    decide +kernel
  obtain ⟨finding, hfinding⟩ := Option.isSome_iff_exists.mp hsome
  have hfound := Verdict.finding?_eq_some_iff.mp hfinding
  have hkept : ¬ accentedEntry.DeletesStatement ⟨fun _ => false, none⟩ := by
    rintro ⟨t, statement, receiver, ht, hpass, -⟩
    have htemplate := hpass.template
    rw [← Option.some.inj ht] at htemplate
    exact absurd htemplate (by decide)
  obtain ⟨-, t, ht, hconfines⟩ := confines_of_found hload List.mem_cons_self hfound hkept
  obtain rfl := Option.some.inj ht
  have hthis : "this.".toList <+: "this.put(a)".toList := by decide
  obtain ⟨fixed, happly, -, hreceiver⟩ := hconfines.made
  exact ⟨hload, finding, hfound, hkept, hconfines.behind _ rfl hthis, hconfines.stop, fixed,
    happly, hreceiver _ rfl hthis⟩

end LoadedManifest

end CallMigration
