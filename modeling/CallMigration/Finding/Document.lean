import CallMigration.Finding
import CallMigration.Json.Printer

/-!
# Findings in JSON

The members of a finding in their order, and many findings as one document.
-/

namespace CallMigration

/-- A list of texts. -/
def Json.ofTexts (texts : List String) : Json := .array (texts.map .ofText)

/-- A position by its row and column. -/
def Position.toJson (p : Position) : Json :=
  .ofMembers [("row", .ofNat p.row), ("column", .ofNat p.column)]

/-- A span by its offsets and positions. -/
def Span.toJson (s : Span) : Json :=
  .ofMembers [("start_byte", .ofNat s.range.start), ("end_byte", .ofNat s.range.stop),
    ("start", s.start.toJson), ("end", s.stop.toJson)]

/-- An API by its names and what is said about it. -/
def Api.toJson (api : Api) : Json :=
  .ofMembers [("class_name", .ofText api.className), ("method_name", .ofText api.methodName),
    ("package_name", .ofText api.packageName), ("is_constructor", .bool api.isConstructor),
    ("is_deprecated", .bool api.isDeprecated), ("extra_message", .ofText api.extraMessage)]

/-- An edit by its offsets and its text. -/
def Edit.toJson (e : Edit) : Json :=
  .ofMembers [("start_byte", .ofNat e.range.start), ("end_byte", .ofNat e.range.stop),
    ("replacement", .ofText e.text)]

/-- A fix by its edit and its imports. -/
def Fix.toJson (fix : Fix) : Json :=
  .ofMembers [("edit", fix.edit.toJson), ("imports_to_add", .ofTexts fix.imports.types),
    ("static_imports_to_add", .ofTexts fix.imports.statics)]

namespace Finding

/-- A finding by its members. -/
def toJson (finding : Finding) : Json :=
  .ofMembers [("check", .ofText check), ("tag", .ofText tag), ("severity", .ofText severity),
    ("file", finding.file.elim .null .ofText), ("span", finding.span.toJson),
    ("message", .ofText finding.message), ("api", finding.api.toJson),
    ("fix", finding.fix.toJson), ("applicability", .ofText finding.applicability.text)]

/-- Findings as a document. -/
def document (findings : List Finding) : String := (Json.array (findings.map toJson)).pretty

end Finding

end CallMigration
