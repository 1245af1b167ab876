import CallMigration.Proofs.Comment
import CallMigration.Proofs.Manifest.Usable
import CallMigration.Proofs.Manifest.Validity

/-!
# Which comments a finding can remove

Calls with comments are left alone by the text of the call. The fix of a call removes no other text,
so that no comment goes with it; a fix that deletes a statement removes what stands around the call
as well, and a comment can stand there (`LoadedManifest.comment_deleted`). That is all that can
happen: the removed text is the call, without a comment, between the rest of its statement, and only
a deletion with something other than harmless text around the call removes a comment
(`LoadedManifest.hasComment_of_reports`).
-/

namespace CallMigration

namespace CallSite

variable {site : CallSite} {source : String} {t : Template}

/-- A fix that replaces a range holding all of the call replaces the call. -/
theorem ReadFrom.editRange_eq_of_contains (h : site.ReadFrom source)
    (hcontains : (site.editRange t).contains site.call.range = true) :
    site.editRange t = site.call.range :=
  TextRange.contains_antisymm hcontains (h.contains_editRange t).1

end CallSite

namespace LoadedManifest

variable {sourcePath : Path} {source : String} {records : List CallRecord} {m : LoadedManifest}
  {settings : Settings} {compiles : Option (Fix → Bool)} {f : Finding} {e : ManifestEntry}

/-- A finding that replaces a range holding all of the call replaces the call or deletes its
statement. -/
theorem edit_of_reports (h : ofRecords sourcePath source records = .ok m)
    (hf : m.Reports settings compiles e f)
    (hcontains : f.edit.range.contains e.site.call.range = true) :
    e.site.IsOpen settings ∧
      (f.edit.range = e.site.call.range ∨
        f.Deletes f.edit.range ∧ e.site.statement = some f.edit.range) := by
  obtain ⟨-, -, hentries⟩ := exists_record h
  obtain ⟨he, finding, hverdict, rfl⟩ := hf
  obtain ⟨r, -, hsite, -⟩ := hentries e he
  obtain ⟨hread, -, -⟩ := CallRecord.readFrom_of_site hsite
  obtain ⟨t, -, hopen, ⟨statement, receiver, hpass, -, rfl⟩ | ⟨-, rfl, -⟩⟩ :=
    CallSite.verdict_inline hverdict
  · exact ⟨hopen, Or.inr ⟨rfl, hpass.statement⟩⟩
  · exact ⟨hopen, Or.inl (hread.editRange_eq_of_contains hcontains)⟩

/-- **Only a deletion removes comments.** Let calls with comments be left alone and all recorded
statements be pieces of the source. Every finding is that of an entry. If its fix replaces a range
that holds all of the call, be it the call itself or its statement, then what is replaced is the
call, which has no comment, between other text. There is a comment in that only if the fix deletes
the statement and the text around the call is not harmless. -/
theorem hasComment_of_reports (h : ofRecords sourcePath source records = .ok m)
    (hstatements : ∀ r ∈ records, ∀ statement ∈ r.statement, (statement.slice? source).isSome)
    (hskip : settings.skipComments = true) (hf : f ∈ m.findings settings compiles) :
    (∃ e, m.Reports settings compiles e f) ∧
      ∀ e, m.Reports settings compiles e f →
        f.edit.range.contains e.site.call.range = true →
          ∃ before after,
            f.edit.range.Frames e.site.call.range source before e.site.call.text after ∧
              Comment.hasComment e.site.call.text = false ∧
              (Comment.hasComment (before ++ e.site.call.text ++ after) = true →
                f.edit.range ≠ e.site.call.range ∧ f.Deletes f.edit.range ∧
                  ¬ Comment.Harmless before after) := by
  refine ⟨mem_findings_iff.mp hf, fun e he hcontains => ?_⟩
  obtain ⟨-, -, hentries⟩ := exists_record h
  obtain ⟨r, hr, hsite, -⟩ := hentries e he.1
  obtain ⟨hread, -, hstatement⟩ := CallRecord.readFrom_of_site hsite
  obtain ⟨hopen, hedit⟩ := edit_of_reports h he hcontains
  have hcall : Comment.hasComment e.site.call.text = false := by
    rw [← Bool.not_eq_true]
    exact fun hcomment => hopen.uncommented ⟨hskip, hcomment⟩
  have hpiece : (f.edit.range.slice? source).isSome = true := by
    rcases hedit with hwhole | ⟨-, hsome⟩
    · simp [hwhole, hread.call]
    · exact hstatements r hr f.edit.range (hstatement ▸ hsome)
  obtain ⟨text, htext⟩ := Option.isSome_iff_exists.mp hpiece
  obtain ⟨before, after, hframes⟩ := TextRange.frames_of_contains htext hread.call hcontains
  refine ⟨before, after, hframes, hcall, fun hcomment => ?_⟩
  have hother : f.edit.range ≠ e.site.call.range := by
    intro hwhole
    have hsame := hframes.whole
    rw [hwhole, hread.call] at hsame
    rw [← Option.some.inj hsame, hcall] at hcomment
    cases hcomment
  refine ⟨hother, (hedit.resolve_left hother).1, fun hharmless => ?_⟩
  rw [Comment.hasComment_surrounded hharmless hcall] at hcomment
  cases hcomment

/-- A call that amounts to its receiver, with a comment between it and the end of its statement. -/
def remarkedRecord : CallRecord :=
  { overlongRecord with statement := some ⟨21, 43⟩ }

/-- The source of that call. -/
def remarkedSource : String := "class A { void m() { foo.noop() /* keep */; } }
"

/-- There is a comment in its statement. -/
theorem hasComment_remarked :
    ((⟨21, 43⟩ : TextRange).slice? remarkedSource).map Comment.hasComment = some true := by
  decide +kernel

/-- There is a finding for it, which replaces the statement. -/
theorem exists_finding_remarked :
    ∃ m, ofRecords ⟨"A.java"⟩ remarkedSource [remarkedRecord] = .ok m ∧
      ∃ f ∈ m.findings .default none, f.edit.range = ⟨21, 43⟩ := by
  have hruns : ((ofRecords ⟨"A.java"⟩ remarkedSource [remarkedRecord]).toOption.map fun m =>
      (m.findings .default none).map (·.edit.range)) = some [⟨21, 43⟩] := by
    decide +kernel
  obtain ⟨m, hload, hranges⟩ := Option.map_eq_some_iff.mp hruns
  obtain ⟨f, hf, hrange⟩ := List.mem_map.mp (hranges ▸ List.mem_singleton_self _)
  exact ⟨m, eq_ok_of_toOption hload, f, hf, hrange⟩

/-- A comment goes with the statement, although calls with comments are left alone. -/
theorem comment_deleted :
    Settings.default.skipComments = true ∧
      ∃ m, ofRecords ⟨"A.java"⟩ remarkedSource [remarkedRecord] = .ok m ∧
        ∃ f ∈ m.findings .default none, remarkedRecord.statement = some f.edit.range ∧
          ∃ text, f.edit.range.slice? remarkedSource = some text ∧
            Comment.hasComment text = true := by
  obtain ⟨m, hload, f, hf, hrange⟩ := exists_finding_remarked
  obtain ⟨text, htext, hcomment⟩ := Option.map_eq_some_iff.mp hasComment_remarked
  exact ⟨rfl, m, hload, f, hf, congrArg some hrange.symm, text, hrange ▸ htext, hcomment⟩

/-- It stands around the call, in the statement that is deleted. -/
theorem hasComment_of_reports_remarked :
    ∃ m e f before after, ofRecords ⟨"A.java"⟩ remarkedSource [remarkedRecord] = .ok m ∧
      m.Reports .default none e f ∧
      f.edit.range.Frames e.site.call.range remarkedSource before e.site.call.text after ∧
      Comment.hasComment (before ++ e.site.call.text ++ after) = true ∧
      f.Deletes f.edit.range ∧ ¬ Comment.Harmless before after := by
  obtain ⟨m, hload, f, hf, hrange⟩ := exists_finding_remarked
  have hpieces : ∀ r ∈ [remarkedRecord], ∀ statement ∈ r.statement,
      (statement.slice? remarkedSource).isSome := by
    intro r hr statement hstatement
    obtain rfl := List.mem_singleton.mp hr
    obtain rfl := Option.some.inj hstatement
    decide +kernel
  obtain ⟨⟨e, he⟩, hall⟩ := hasComment_of_reports hload hpieces rfl hf
  obtain ⟨r, hr, hsite, -⟩ := (exists_record hload).2.2 e he.1
  obtain rfl := List.mem_singleton.mp hr
  obtain ⟨hread, -, hstatement⟩ := CallRecord.readFrom_of_site hsite
  obtain ⟨before, after, hframes, -, honly⟩ :=
    hall e he (hread.statement _ (by rw [hstatement, hrange]; rfl))
  have hcomment : Comment.hasComment (before ++ e.site.call.text ++ after) = true := by
    have hremarked := hasComment_remarked
    rw [← hrange, hframes.whole] at hremarked
    exact Option.some.inj hremarked
  obtain ⟨-, hdeletes, hharm⟩ := honly hcomment
  exact ⟨m, e, f, before, after, hload, he, hframes, hcomment, hdeletes, hharm⟩

end LoadedManifest

end CallMigration
