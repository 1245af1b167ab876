import CallMigration.Json.Decoder
import CallMigration.Template

/-!
# Annotations in JSON

The annotations of a declaration as they are recorded: an object with the annotation that holds the
replacement and the one that waives validation, either of which may be absent.
-/

namespace CallMigration

/-- The annotation that holds a replacement. -/
def InlineAnnotation.ofJson? (value : Json) : Option InlineAnnotation := do
  let [replacement, imports, statics] ←
    value.record? false [["replacement"], ["imports"], ["staticImports", "static_imports"]]
    | none
  return {
    replacement := ← Json.required? Json.text? replacement
    imports := ← Json.orElse? [] (Json.listOf? Json.text?) imports
    staticImports := ← Json.orElse? [] (Json.listOf? Json.text?) statics }

namespace Annotations

/-- No annotations. -/
def absent : Annotations := ⟨none, none⟩

/-- The annotations of a declaration. -/
def ofJson? (value : Json) : Option Annotations := do
  let [inlineMe, disabled] ←
    value.record? false
      [["InlineMe", "inline_me"], ["InlineMeValidationDisabled", "validation_disabled"]]
    | none
  return {
    inlineMe := ← Json.orElse? none (Json.nullable? InlineAnnotation.ofJson?) inlineMe
    validationDisabled :=
      ← Json.orElse? none (Json.nullable? (Json.listOf? Json.text?)) disabled }

end Annotations

end CallMigration
