import CallMigration.Proofs.Inlining
import CallMigration.Proofs.Manifest.Record
import Mathlib.Data.List.Basic

/-!
# Records are processed independently

Records are read one after the other, and the first that gives no entry ends it
(`LoadedManifest.entriesOf_eq_error_iff`). What they say about side effects is put together, so that
a call may be answered by what another record says. Where records for one receiver agree, each call
hears what its own record says (`LoadedManifest.hasSideEffect_eq`), and nothing that one record
leads to depends on the others (`LoadedManifest.findings_append`).
-/

namespace CallMigration

namespace CallRecord

variable {r : CallRecord} {source : String}

/-- Whether records for one receiver say the same about its side effect. -/
def Agree (records : List CallRecord) : Prop :=
  ∀ r ∈ records, ∀ r' ∈ records, ∀ range, r.receiver = some range → r'.receiver = some range →
    r.receiverSideEffect = r'.receiverSideEffect

theorem Agree.of_subset {records more : List CallRecord} (h : Agree more)
    (hsubset : records ⊆ more) : Agree records :=
  fun r hr r' hr' => h r (hsubset hr) r' (hsubset hr')

/-- The receiver of a recorded call is the recorded one. -/
theorem receiver_eq_of_callKind {kind : CallKind} {receiver : Expression}
    (h : r.callKind source = .ok kind) (hreceiver : kind.receiver? = some receiver) :
    r.receiver = some receiver.range := by
  unfold callKind at h
  split at h
  · split at h
    · obtain rfl := Except.ok.inj h
      cases hreceiver
    · next range hrange =>
        obtain ⟨e, he, rfl⟩ := exists_of_map_eq_ok h
        obtain rfl := Option.some.inj hreceiver
        rw [hrange, (expression_eq_ok he).1]
  · split at h
    · cases h
    · obtain ⟨text, -, rfl⟩ := exists_of_map_eq_ok h
      cases hreceiver

theorem receiver_eq_of_site {site : CallSite} {receiver : Expression}
    (h : r.site source = .ok site) (hreceiver : site.receiver? = some receiver) :
    r.receiver = some receiver.range := by
  obtain ⟨call, -, h⟩ := exists_of_bind_eq_ok h
  obtain ⟨kind, hkind, h⟩ := exists_of_bind_eq_ok h
  obtain ⟨arguments, -, h⟩ := exists_of_bind_eq_ok h
  obtain ⟨checked, -, h⟩ := exists_of_bind_eq_ok h
  obtain ⟨hkind', -⟩ := CallSite.make_eq_ok (eq_ok_of_mapError h)
  rw [CallSite.receiver?, hkind'] at hreceiver
  exact receiver_eq_of_callKind hkind hreceiver

end CallRecord

namespace LoadedManifest

variable {sourcePath : Path} {source : String} {records more : List CallRecord}
  {m : LoadedManifest}

section Entries

/-- Reading records in two parts is reading them all. -/
theorem entriesOf_append :
    entriesOf source (records ++ more) =
      (entriesOf source records).bind fun entries => (entriesOf source more).map (entries ++ ·) := by
  induction records with
  | nil => cases h : entriesOf source more <;> simp [entriesOf, h, Except.bind, Except.map]
  | cons r records ih =>
      rw [List.cons_append, entriesOf, entriesOf]
      cases entry source r with
      | error cause => rfl
      | ok e =>
          simp only [ih]
          cases entriesOf source records with
          | error cause => rfl
          | ok entries => cases entriesOf source more <;> rfl

/-- The first record that gives no entry is reported. -/
theorem entriesOf_eq_error_iff {cause : ManifestError} :
    entriesOf source records = .error cause ↔
      ∃ before r after, records = before ++ r :: after ∧
        (∀ q ∈ before, ∃ e, entry source q = .ok e) ∧ entry source r = .error cause := by
  induction records with
  | nil => simp [entriesOf]
  | cons r records ih =>
      rw [entriesOf]
      cases hr : entry source r with
      | error other =>
          simp only [Except.error.injEq]
          constructor
          · rintro rfl
            exact ⟨[], r, records, rfl, by simp, hr⟩
          · rintro ⟨before, r', after, hsplit, hbefore, hr'⟩
            cases before with
            | nil =>
                obtain rfl := (List.cons.inj hsplit).1
                exact Except.error.inj (hr.symm.trans hr')
            | cons q before =>
                obtain rfl := (List.cons.inj hsplit).1
                obtain ⟨e, he⟩ := hbefore r List.mem_cons_self
                cases hr.symm.trans he
      | ok e =>
          have hmap : (entriesOf source records).map (e :: ·) = .error cause ↔
              entriesOf source records = .error cause := by
            cases entriesOf source records <;> simp [Except.map]
          simp only [hmap, ih]
          constructor
          · rintro ⟨before, r', after, rfl, hbefore, hr'⟩
            exact ⟨r :: before, r', after, rfl, List.forall_mem_cons.mpr ⟨⟨e, hr⟩, hbefore⟩, hr'⟩
          · rintro ⟨before, r', after, hsplit, hbefore, hr'⟩
            cases before with
            | nil =>
                obtain rfl := (List.cons.inj hsplit).1
                cases hr.symm.trans hr'
            | cons q before =>
                obtain ⟨rfl, rfl⟩ := List.cons.inj hsplit
                exact ⟨before, r', after, rfl, (List.forall_mem_cons.mp hbefore).2, hr'⟩

theorem ofRecords_eq_error_iff {cause : ManifestError} :
    ofRecords sourcePath source records = .error cause ↔
      entriesOf source records = .error cause := by
  unfold ofRecords
  cases entriesOf source records <;> simp [Except.map]

end Entries

section Answers

variable {r : CallRecord} {receiver : Expression}

theorem answer?_eq_some_iff {range : TextRange} {answer : Bool} :
    answer? r = some (range, answer) ↔
      r.receiver = some range ∧ r.receiverSideEffect = some answer := by
  unfold answer?
  split
  · next hrange hanswer => simp [hrange, hanswer]
  · next hnone =>
      simp only [reduceCtorEq, false_iff]
      rintro ⟨hrange, hanswer⟩
      exact hnone _ _ hrange hanswer

theorem mem_answers_iff (h : ofRecords sourcePath source records = .ok m) {range : TextRange}
    {answer : Bool} :
    (range, answer) ∈ m.answers ↔
      ∃ r ∈ records, r.receiver = some range ∧ r.receiverSideEffect = some answer := by
  obtain ⟨entries, -, rfl⟩ := exists_of_map_eq_ok h
  simp [answer?_eq_some_iff]

/-- **Each call hears its own record.** Where records for one receiver agree, what is known about
the side effect of a receiver is what its record says, or else how it is spelled. -/
theorem hasSideEffect_eq (h : ofRecords sourcePath source records = .ok m)
    (hagree : CallRecord.Agree records) (hr : r ∈ records)
    (hreceiver : r.receiver = some receiver.range) :
    m.hasSideEffect receiver = r.receiverSideEffect.getD receiver.mayHaveSideEffect := by
  have hanswers : ∀ answer, (receiver.range, answer) ∈ m.answers ↔
      r.receiverSideEffect = some answer := by
    intro answer
    rw [mem_answers_iff h]
    constructor
    · rintro ⟨r', hr', hreceiver', hanswer⟩
      rw [hagree r hr r' hr' _ hreceiver hreceiver', hanswer]
    · exact fun hanswer => ⟨r, hr, hreceiver, hanswer⟩
  unfold hasSideEffect
  split
  · next found answer hfind =>
      have hmem := List.mem_of_find?_eq_some hfind
      have hrange : found = receiver.range := by simpa using List.find?_some hfind
      rw [hrange, hanswers] at hmem
      rw [hmem, Option.getD_some]
  · next hfind =>
      have hnone : r.receiverSideEffect = none := by
        rw [Option.eq_none_iff_forall_ne_some]
        intro answer hanswer
        have hmiss := List.find?_eq_none.mp hfind _ ((hanswers answer).mpr hanswer)
        simp at hmiss
      rw [hnone, Option.getD_none]

/-- Manifests that say the same about the receiver of a call inspect it alike. -/
theorem inspect_congr {m' : LoadedManifest} {e : ManifestEntry}
    (hsame : ∀ receiver, e.site.receiver? = some receiver →
      m'.hasSideEffect receiver = m.hasSideEffect receiver)
    (table : ImportTable) (settings : Settings) (compiles : Option (Fix → Bool)) :
    m'.inspect table settings compiles e = m.inspect table settings compiles e := by
  have hinspected := inspectedAs_inspect m table settings compiles e
  have hagree : Collaborators.AgreeOn ⟨m.hasSideEffect, compiles⟩ ⟨m'.hasSideEffect, compiles⟩
      (m.inspect table settings compiles e) := by
    refine ⟨?_, fun _ _ => rfl, hinspected.compiles_eq_none⟩
    intro receiver hasked
    obtain ⟨t, statement, -, -, hpass⟩ := hinspected.mem_sideEffectQueries_iff.mp hasked
    exact hsame receiver hpass.receiver
  exact (hinspected.congr hagree).inline_eq

/-- A manifest with more records inspects the calls of the fewer as a manifest with these alone. -/
theorem inspect_of_subset {m' : LoadedManifest} (h : ofRecords sourcePath source records = .ok m)
    (h' : ofRecords sourcePath source more = .ok m') (hagree : CallRecord.Agree more)
    (hsubset : records ⊆ more) {e : ManifestEntry} (he : e ∈ m.entries) (table : ImportTable)
    (settings : Settings) (compiles : Option (Fix → Bool)) :
    m'.inspect table settings compiles e = m.inspect table settings compiles e := by
  obtain ⟨-, -, hentries⟩ := exists_record h
  obtain ⟨r, hr, hsite, -⟩ := hentries e he
  refine inspect_congr (fun receiver hreceiver => ?_) table settings compiles
  have hrecorded := CallRecord.receiver_eq_of_site hsite hreceiver
  rw [hasSideEffect_eq h' hagree (hsubset hr) hrecorded,
    hasSideEffect_eq h (hagree.of_subset hsubset) hr hrecorded]

end Answers

/-- **Records are processed independently.** Let records for one receiver agree. Two lists of
records can be loaded together exactly if each of them can be loaded, and otherwise the first record
that gives no entry is reported. Loaded together they have the entries of the first list followed by
those of the second, and the findings of the first followed by those of the second. -/
theorem findings_append (hagree : CallRecord.Agree (records ++ more)) (settings : Settings)
    (compiles : Option (Fix → Bool)) :
    ((∃ m, ofRecords sourcePath source (records ++ more) = .ok m) ↔
        (∃ a, ofRecords sourcePath source records = .ok a) ∧
          ∃ b, ofRecords sourcePath source more = .ok b) ∧
      (∀ cause, ofRecords sourcePath source (records ++ more) = .error cause ↔
        ∃ before r after, records ++ more = before ++ r :: after ∧
          (∀ q ∈ before, ∃ e, entry source q = .ok e) ∧ entry source r = .error cause) ∧
      ∀ m a b, ofRecords sourcePath source (records ++ more) = .ok m →
        ofRecords sourcePath source records = .ok a → ofRecords sourcePath source more = .ok b →
          m.entries = a.entries ++ b.entries ∧
            m.findings settings compiles =
              a.findings settings compiles ++ b.findings settings compiles := by
  refine ⟨?success, ?error, ?findings⟩
  case success =>
    unfold ofRecords
    rw [entriesOf_append]
    cases entriesOf source records <;> cases entriesOf source more <;>
      simp [Except.bind, Except.map]
  case error =>
    intro cause
    rw [ofRecords_eq_error_iff, entriesOf_eq_error_iff]
  case findings =>
    intro m a b hm ha hb
    have hentries : m.entries = a.entries ++ b.entries := by
      obtain ⟨entries, hentries, rfl⟩ := exists_of_map_eq_ok hm
      obtain ⟨first, hfirst, rfl⟩ := exists_of_map_eq_ok ha
      obtain ⟨second, hsecond, rfl⟩ := exists_of_map_eq_ok hb
      rw [entriesOf_append, hfirst, hsecond] at hentries
      exact (Except.ok.inj hentries).symm
    obtain ⟨hpath, hsource, -⟩ := exists_record hm
    obtain ⟨hpathA, hsourceA, -⟩ := exists_record ha
    obtain ⟨hpathB, hsourceB, -⟩ := exists_record hb
    refine ⟨hentries, ?_⟩
    simp only [findings, hentries, List.filterMap_append, hpath, hsource, hpathA, hsourceA, hpathB,
      hsourceB]
    congr 1
    · exact List.filterMap_congr fun e he => by
        rw [inspect_of_subset ha hm hagree (List.subset_append_left _ _) he]
    · exact List.filterMap_congr fun e he => by
        rw [inspect_of_subset hb hm hagree (List.subset_append_right _ _) he]

/-- A call that amounts to its receiver and is a statement of its own, recorded at an offset. -/
def noopRecord (start : Nat) (sideEffect : Bool) : CallRecord where
  target := ⟨"w.W", "noop", "w", [], false, false, false⟩
  annotations := ⟨some ⟨"this", [], []⟩, none⟩
  kind := .method
  call := ⟨start, start + 10⟩
  receiver := some ⟨start, start + 3⟩
  keyword := none
  className := none
  arguments := []
  statement := some ⟨start, start + 11⟩
  receiverSideEffect := some sideEffect

/-- A source with two such calls. -/
def noopSource : String := "class A \x7b void m() \x7b foo.noop(); bar.noop(); \x7d \x7d"

/-- The first of them is recorded in both lists, with a receiver that has a side effect and stays;
the other is recorded in the second list alone, and its statement goes. -/
theorem findings_append_noops :
    CallRecord.Agree ([noopRecord 21 true] ++ [noopRecord 21 true, noopRecord 33 false]) ∧
      ∃ m, ofRecords ⟨"A.java"⟩ noopSource
          ([noopRecord 21 true] ++ [noopRecord 21 true, noopRecord 33 false]) = .ok m ∧
        (m.findings .default none).map (·.fix.edit) =
          [⟨⟨21, 31⟩, "foo"⟩, ⟨⟨21, 31⟩, "foo"⟩, .deletion ⟨33, 44⟩] := by
  have hagree :
      CallRecord.Agree ([noopRecord 21 true] ++ [noopRecord 21 true, noopRecord 33 false]) := by
    simp [CallRecord.Agree, noopRecord]
  have hfirst : ((ofRecords ⟨"A.java"⟩ noopSource [noopRecord 21 true]).toOption.map fun a =>
      (a.findings .default none).map (·.fix.edit)) = some [⟨⟨21, 31⟩, "foo"⟩] := by
    decide +kernel
  have hsecond : ((ofRecords ⟨"A.java"⟩ noopSource
      [noopRecord 21 true, noopRecord 33 false]).toOption.map fun b =>
        (b.findings .default none).map (·.fix.edit)) =
          some [⟨⟨21, 31⟩, "foo"⟩, .deletion ⟨33, 44⟩] := by
    decide +kernel
  obtain ⟨a, ha, hfoundA⟩ := Option.map_eq_some_iff.mp hfirst
  obtain ⟨b, hb, hfoundB⟩ := Option.map_eq_some_iff.mp hsecond
  have ha := eq_ok_of_toOption ha
  have hb := eq_ok_of_toOption hb
  obtain ⟨hloads, -, hfindings⟩ := @findings_append ⟨"A.java"⟩ noopSource _ _ hagree .default none
  obtain ⟨m, hm⟩ := hloads.mpr ⟨⟨a, ha⟩, ⟨b, hb⟩⟩
  obtain ⟨-, hm'⟩ := hfindings m a b hm ha hb
  exact ⟨hagree, m, hm, by rw [hm', List.map_append, hfoundA, hfoundB]; rfl⟩

end LoadedManifest

end CallMigration
