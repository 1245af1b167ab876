import CallMigration.Api
import CallMigration.Edit
import CallMigration.NewImports
import CallMigration.Position

/-!
# Findings

A finding reports one call that can be replaced, together with the fix that replaces it.
-/

namespace CallMigration

/-- An edit together with the imports it relies on. -/
structure Fix where
  edit : Edit
  imports : NewImports
deriving DecidableEq, Inhabited

namespace Fix

/-- Whether the fix asks for any import. -/
def addsImports (fix : Fix) : Bool := !fix.imports.isEmpty

/-- Whether the fix takes text out and puts none in. -/
def isDeletion (fix : Fix) : Bool :=
  fix.edit.text == "" && fix.edit.range.start < fix.edit.range.stop

end Fix

/-- How far a fix can be trusted. -/
inductive Applicability where
  | machineApplicable
  | maybeIncorrect
deriving DecidableEq, Inhabited

/-- The name of an applicability. -/
def Applicability.text : Applicability → String
  | .machineApplicable => "machine-applicable"
  | .maybeIncorrect => "maybe-incorrect"

/-- One call that can be replaced. -/
structure Finding where
  file : Option String
  span : Span
  api : Api
  fix : Fix
  applicability : Applicability
deriving DecidableEq, Inhabited

namespace Finding

/-- The name of the check that all findings come from. -/
def check : String := "InlineMeInliner"

/-- What the check is about. -/
def checkSummary : String := "Callers of this API should be inlined."

/-- The tag of all findings. -/
def tag : String := "JavaInlineMe"

/-- The severity of all findings. -/
def severity : String := "warning"

/-- A finding on a range whose file and source are not named yet. -/
def unlocated (api : Api) (range : TextRange) (fix : Fix) (validated : Bool) : Finding where
  file := none
  span := .unlocated range
  api := api
  fix := fix
  applicability := if validated then .machineApplicable else .maybeIncorrect

/-- The finding placed in a file with the given source. -/
def located (finding : Finding) (file source : String) : Finding :=
  { finding with file := some file, span := .ofRange source finding.span.range }

/-- What the finding says. -/
def message (finding : Finding) : String := finding.api.message

end Finding

end CallMigration
