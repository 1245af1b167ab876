import CallMigration.Manifest.Loaded
import CallMigration.Proofs.CallSite
import CallMigration.Proofs.Edit.Validity
import CallMigration.Proofs.Inlining

/-!
# What loading checks

A record becomes a call site only if every range that is read names a piece of the source. The range
of the statement is not read: all that is known of it is that it holds the call
(`CallSite.ReadFrom`).

* `CallRecord.readFrom_of_site`: what is known of a call site that comes from a record;
* `LoadedManifest.exists_record`: every entry of a loaded manifest comes from one of its records;
* `CallSite.ReadFrom.cut?_editRange` and `contains_editRange`: the range that the fix of such a call
  replaces is one of the source and lies in the call.
-/

namespace CallMigration

section Outcome

variable {α β ε ε' : Type}

theorem exists_of_map_eq_ok {f : α → β} {x : Except ε α} {b : β} (h : x.map f = .ok b) :
    ∃ a, x = .ok a ∧ f a = b := by
  cases x with
  | error cause => cases h
  | ok a => exact ⟨a, rfl, Except.ok.inj h⟩

theorem eq_ok_of_mapError {f : ε → ε'} {x : Except ε α} {a : α} (h : x.mapError f = .ok a) :
    x = .ok a := by
  cases x with
  | error cause => cases h
  | ok b => rw [Except.ok.inj h]

theorem eq_ok_of_toOption {x : Except ε α} {a : α} (h : x.toOption = some a) : x = .ok a := by
  cases x with
  | error cause => cases h
  | ok b => rw [Option.some.inj h]

theorem exists_of_bind_eq_ok {x : Except ε α} {f : α → Except ε β} {b : β}
    (h : (x >>= f) = .ok b) : ∃ a, x = .ok a ∧ f a = .ok b := by
  cases x with
  | error cause => cases h
  | ok a => exact ⟨a, rfl, h⟩

end Outcome

/-- Whether the texts of a call and its receiver are those that their ranges name in a source. Of a
statement it is known only that it holds the call. -/
structure CallSite.ReadFrom (site : CallSite) (source : String) : Prop where
  call : site.call.range.slice? source = some site.call.text
  receiver : ∀ receiver, site.receiver? = some receiver →
    receiver.range.slice? source = some receiver.text
  statement : ∀ statement, site.statement = some statement →
    statement.contains site.call.range = true

namespace CallSite

variable {site : CallSite} {source : String}

/-- The range that the fix of a call replaces is a range of the source. -/
theorem ReadFrom.cut?_editRange (h : site.ReadFrom source) (t : Template) :
    ∃ a m b, (site.editRange t).cut? source.toList = some (a, m, b) := by
  obtain ⟨before, after, hcall⟩ := TextRange.slice?_eq_some_iff.mp h.call
  rcases site.editRange_cases t with ⟨receiver, hreceiver, hrange⟩ | hrange
  · obtain ⟨before', after', hcut⟩ :=
      TextRange.slice?_eq_some_iff.mp (h.receiver receiver hreceiver)
    have hwithin := TextRange.contains_iff.mp (contains_receiver hreceiver)
    obtain ⟨rest, -, hrest⟩ := TextRange.cut?_following hcall hcut hwithin.2
    rw [hrange]
    exact ⟨_, _, _, hrest⟩
  · rw [hrange]
    exact ⟨_, _, _, hcall⟩

/-- The range that the fix of a call replaces lies in the call and ends with it. -/
theorem ReadFrom.contains_editRange (h : site.ReadFrom source) (t : Template) :
    site.call.range.contains (site.editRange t) = true ∧
      (site.editRange t).stop = site.call.range.stop := by
  rcases site.editRange_cases t with ⟨receiver, hreceiver, hrange⟩ | hrange
  · obtain ⟨a, b, hcut⟩ := TextRange.slice?_eq_some_iff.mp (h.receiver receiver hreceiver)
    have hforward := (TextRange.byteLength_of_cut? hcut).2.2
    have hstart := (TextRange.contains_iff.mp (contains_receiver hreceiver)).1
    rw [hrange, TextRange.contains_iff]
    exact ⟨⟨Nat.le_trans hstart hforward, Nat.le_refl _⟩, rfl⟩
  · rw [hrange, TextRange.contains_iff]
    exact ⟨⟨Nat.le_refl _, Nat.le_refl _⟩, rfl⟩

end CallSite

namespace CallRecord

variable {r : CallRecord} {source : String}

theorem slice_eq_ok_iff {what piece : String} {range : TextRange} :
    slice source what range = .ok piece ↔ range.slice? source = some piece := by
  unfold slice
  cases range.slice? source with
  | none => simp
  | some text => simp

theorem expression_eq_ok {what : String} {range : TextRange} {e : Expression}
    (h : expression source what range = .ok e) :
    e.range = range ∧ range.slice? source = some e.text := by
  obtain ⟨text, hslice, rfl⟩ := exists_of_map_eq_ok h
  exact ⟨rfl, slice_eq_ok_iff.mp hslice⟩

/-- The receiver of a recorded call is read off the recorded range. -/
theorem receiver?_of_callKind {kind : CallKind} {receiver : Expression}
    (h : r.callKind source = .ok kind) (hreceiver : kind.receiver? = some receiver) :
    receiver.range.slice? source = some receiver.text := by
  unfold callKind at h
  split at h
  · split at h
    · obtain rfl := Except.ok.inj h
      cases hreceiver
    · obtain ⟨e, he, rfl⟩ := exists_of_map_eq_ok h
      obtain rfl := Option.some.inj hreceiver
      obtain ⟨hrange, hslice⟩ := expression_eq_ok he
      rw [hrange]
      exact hslice
  · split at h
    · cases h
    · obtain ⟨text, -, rfl⟩ := exists_of_map_eq_ok h
      cases hreceiver

/-- **What loading checks.** The call site of a record has the recorded call and statement. Its call
and its receiver are read off the source, and its statement holds the call. -/
theorem readFrom_of_site {site : CallSite} (h : r.site source = .ok site) :
    site.ReadFrom source ∧ site.call.range = r.call ∧ site.statement = r.statement := by
  obtain ⟨call, hcall, h⟩ := exists_of_bind_eq_ok h
  obtain ⟨kind, hkind, h⟩ := exists_of_bind_eq_ok h
  obtain ⟨arguments, -, h⟩ := exists_of_bind_eq_ok h
  obtain ⟨checked, hstatement, h⟩ := exists_of_bind_eq_ok h
  obtain ⟨hrange, hslice⟩ := expression_eq_ok hcall
  obtain ⟨hkind', -, -, hcall', hstatement'⟩ := CallSite.make_eq_ok (eq_ok_of_mapError h)
  refine ⟨⟨?_, ?_, ?_⟩, by rw [hcall', hrange], hstatement'⟩
  · rw [hcall', hrange, hslice]
  · intro receiver hreceiver
    rw [CallSite.receiver?, hkind'] at hreceiver
    exact receiver?_of_callKind hkind hreceiver
  · intro statement hsome
    rw [hstatement'] at hsome
    unfold checkStatement at hstatement
    rw [hsome] at hstatement
    simp only at hstatement
    split at hstatement
    · next hcontains => rw [hcall', hrange, hcontains]
    · cases hstatement

end CallRecord

namespace LoadedManifest

variable {source : String} {records : List CallRecord}

/-- Every entry that is read comes from a record. -/
theorem exists_record_of_entriesOf {entries : List ManifestEntry} {e : ManifestEntry}
    (h : entriesOf source records = .ok entries) (he : e ∈ entries) :
    ∃ r ∈ records, r.site source = .ok e.site ∧ r.template? = .ok e.template := by
  induction records generalizing entries with
  | nil =>
      obtain rfl := Except.ok.inj h
      cases he
  | cons r records ih =>
      unfold entriesOf at h
      split at h
      · cases h
      · next first hfirst =>
          obtain ⟨rest, hrest, rfl⟩ := exists_of_map_eq_ok h
          rcases List.mem_cons.mp he with rfl | he
          · unfold entry at hfirst
            split at hfirst
            · cases hfirst
            · next site hsite =>
                obtain ⟨template, htemplate, rfl⟩ := exists_of_map_eq_ok hfirst
                exact ⟨r, List.mem_cons_self, hsite, htemplate⟩
          · obtain ⟨r', hr', hentry⟩ := ih hrest he
            exact ⟨r', List.mem_cons_of_mem r hr', hentry⟩

/-- A loaded manifest holds its source, and its entries come from its records. -/
theorem exists_record {sourcePath : Path} {m : LoadedManifest}
    (h : ofRecords sourcePath source records = .ok m) :
    m.sourcePath = sourcePath ∧ m.source = source ∧ ∀ e ∈ m.entries,
      ∃ r ∈ records, r.site source = .ok e.site ∧ r.template? = .ok e.template := by
  obtain ⟨entries, hentries, rfl⟩ := exists_of_map_eq_ok h
  exact ⟨rfl, rfl, fun e he => exists_record_of_entriesOf hentries he⟩

end LoadedManifest

end CallMigration
