import CallMigration.Finding

/-!
# Findings as text

One finding is shown on two lines for people, or on one line as a workflow command.
-/

namespace CallMigration.Finding

/-- The file of a finding, or a stand-in for it. -/
def fileText (finding : Finding) : String := finding.file.getD "<input>"

/-- The finding for people to read. -/
def pretty (finding : Finding) : String :=
  let replacement :=
    if finding.fix.edit.text = "" then "delete statement" else "`" ++ finding.fix.edit.text ++ "`"
  finding.fileText ++ ":" ++ toString finding.span.start.row ++ ":"
    ++ toString finding.span.start.column ++ ": " ++ severity ++ ": " ++ finding.message
    ++ " [" ++ check ++ "]\n  = fix (" ++ finding.applicability.text ++ "): " ++ replacement

/-- A text with its line feeds escaped, as a workflow command needs it. -/
def escapeLineFeeds (text : String) : String :=
  String.ofList (text.toList.flatMap fun c => if c = '\n' then "%0A".toList else [c])

/-- The finding as a workflow command. -/
def workflowCommand (finding : Finding) : String :=
  "::warning file=" ++ finding.fileText ++ ",line=" ++ toString finding.span.start.row
    ++ ",col=" ++ toString finding.span.start.column
    ++ ",endLine=" ++ toString finding.span.stop.row
    ++ ",endColumn=" ++ toString finding.span.stop.column
    ++ ",title=" ++ check ++ "::" ++ escapeLineFeeds finding.message

end CallMigration.Finding
