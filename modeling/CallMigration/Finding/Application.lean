import CallMigration.Edit.Batch
import CallMigration.Finding
import CallMigration.ImportTable

/-!
# Applying findings

The fixes of the findings for one file are applied together. Each is checked when its turn comes,
and fixes that overlap are served first come first served (`Finding.serveValid_eq`). The imports
that the accepted ones ask for are gathered and added by one further edit.
-/

namespace CallMigration

/-- A source with fixes applied. -/
structure FixedSource where
  source : String
  applied : Nat
  deferred : Nat
deriving DecidableEq, Inhabited

namespace Finding

/-- The edit of a finding's fix. -/
def edit (finding : Finding) : Edit := finding.fix.edit

/-- The imports that findings ask for, each once. -/
def requestedImports (findings : List Finding) : NewImports :=
  findings.foldl (fun requests finding => requests.merge finding.fix.imports) .none

/-- The findings shared out into those accepted and those deferred. -/
def select (findings : List Finding) : Selection Finding :=
  .firstCome (fun a b => a.edit.overlaps b.edit) findings

/-- Serves findings in order when those in `taken` have been accepted already. Each is checked when
its turn comes, and the first whose edit is not valid is reported. -/
def serveValid (source : String) (taken : List Finding) :
    List Finding → Except EditError (Selection Finding)
  | [] => .ok ⟨[], []⟩
  | f :: findings =>
      match f.edit.validate source with
      | .error cause => .error cause
      | .ok () =>
          if taken.any (·.edit.overlaps f.edit) then
            (serveValid source taken findings).map fun rest => ⟨rest.accepted, f :: rest.deferred⟩
          else
            (serveValid source (f :: taken) findings).map fun rest =>
              ⟨f :: rest.accepted, rest.deferred⟩

/-- The edits that accepted findings amount to, the one that adds imports last. -/
def editsOf (source : String) (accepted : List Finding) : List Edit :=
  accepted.map edit ++
    ((ImportTable.ofSource source).insertion? source (requestedImports accepted)).toList

/-- Applies the fixes of findings to their source. -/
def applyAll (source : String) (findings : List Finding) : Except EditError FixedSource :=
  match serveValid source [] findings with
  | .error cause => .error cause
  | .ok selection =>
      match Edit.applyAll source (editsOf source selection.accepted) with
      | .error cause => .error cause
      | .ok result =>
          .ok ⟨result.source, selection.accepted.length, selection.deferred.length⟩

/-- Checking findings one by one while they are served is checking all of them first. -/
theorem serveValid_eq (source : String) (taken findings : List Finding) :
    serveValid source taken findings =
      (Edit.validateAll source (findings.map edit)).map fun _ =>
        .serve (fun a b => a.edit.overlaps b.edit) taken findings := by
  induction findings generalizing taken with
  | nil => rfl
  | cons f findings ih =>
      rw [serveValid, List.map_cons, Edit.validateAll]
      cases f.edit.validate source with
      | error cause => rfl
      | ok checked =>
          simp only [ih, Selection.serve]
          split <;> cases Edit.validateAll source (findings.map edit) <;> rfl

/-- Findings are applied in three steps that can be taken one after the other: they are checked,
served, and made as a batch of edits together with their imports. -/
theorem applyAll_eq (source : String) (findings : List Finding) :
    applyAll source findings =
      match Edit.validateAll source (findings.map edit) with
      | .error cause => .error cause
      | .ok () =>
          match Edit.applyAll source (editsOf source (select findings).accepted) with
          | .error cause => .error cause
          | .ok result =>
              .ok ⟨result.source, (select findings).accepted.length,
                (select findings).deferred.length⟩ := by
  rw [applyAll, serveValid_eq]
  cases Edit.validateAll source (findings.map edit) <;> rfl

end Finding

end CallMigration
