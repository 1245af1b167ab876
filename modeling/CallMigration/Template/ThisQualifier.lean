import CallMigration.Text.Scan

/-!
# The qualifier `this.`

Where a call has no receiver, a template's `this.` names the enclosing object, which goes without
saying. It is dropped where `this` is a word of its own and a word follows the dot.
-/

namespace CallMigration.Template

/-- Finds `this.` as a word of its own with a word after the dot, and writes nothing for it. -/
def thisQualifier : Text.Matcher (List Char) := fun before text =>
  match text with
  | 't' :: 'h' :: 'i' :: 's' :: '.' :: rest =>
      if !Text.isWordAt before && Text.isWordAt rest.head? then some (5, []) else none
  | _ => none

/-- The template without the qualifier `this.`. -/
def dropThisQualifiers (template : String) : String :=
  String.ofList (Text.replaceMatches thisQualifier template.toList)

end CallMigration.Template
