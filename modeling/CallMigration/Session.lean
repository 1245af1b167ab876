import CallMigration.Finding.Application
import CallMigration.Inlining

/-!
# Sessions

A session works on one source text: calls are inlined one by one, their findings wait, and from
time to time the waiting findings are applied together. Settings may change in between, and so may
the source by edits from elsewhere.
-/

namespace CallMigration

/-- A source text with settings and the findings that wait to be applied. -/
structure Session where
  source : String
  settings : Settings
  pending : List Finding
deriving DecidableEq, Inhabited

namespace Session

/-- Inlines a call of the current source; a finding is made to wait. -/
def inline (s : Session) (site : CallSite) (template : Option Template)
    (collaborators : Collaborators) (file : Option String) : Inspection × Session :=
  let inspection :=
    site.inline template s.settings (ImportTable.ofSource s.source) collaborators
  let inspection :=
    match file with
    | some file => inspection.located file s.source
    | none => inspection
  (inspection, { s with pending := s.pending ++ inspection.verdict.finding?.toList })

/-- Applies the waiting findings, which no longer wait afterwards, whatever comes of it. -/
def apply (s : Session) : Except EditError FixedSource × Session :=
  match Finding.applyAll s.source s.pending with
  | .ok fixed => (.ok fixed, { s with source := fixed.source, pending := [] })
  | .error cause => (.error cause, { s with pending := [] })

/-- Changes the settings by a flag. -/
def applyFlag (s : Session) (flag : String) : Except FlagError Session :=
  (s.settings.applyFlag flag).map fun settings => { s with settings := settings }

/-- Makes edits that come from elsewhere. -/
def edit (s : Session) (edits : List Edit) : Except EditError (AppliedEdits × Session) :=
  (Edit.applyAll s.source edits).map fun result =>
    (result, { s with source := result.source })

end Session

end CallMigration
