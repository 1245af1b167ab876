import CallMigration.Text.Trim

/-!
# Inlining templates

The replacement for a call of an API comes from the annotations on its declaration. A template is
never blank, and where validation was waived the reason for that is not blank either; both facts
hold of every template by construction.
-/

namespace CallMigration

/-- Whether a text holds nothing but blank characters. -/
def isBlankText (text : String) : Bool := text.toList.all Text.isBlank

/-- The replacement for calls of an API, with the imports it relies on. -/
structure Template where
  replacement : String
  imports : List String
  staticImports : List String
  /-- Why the replacement was not validated, where it was not. -/
  unvalidatedReason : Option String
  replacement_not_blank : isBlankText replacement = false
  reason_not_blank : unvalidatedReason.any isBlankText = false
deriving DecidableEq

/-- The attributes of the annotation that holds a replacement. -/
structure InlineAnnotation where
  replacement : String
  imports : List String
  staticImports : List String
deriving DecidableEq, Inhabited

/-- The annotations of a declaration that matter to inlining. -/
structure Annotations where
  inlineMe : Option InlineAnnotation
  /-- The values of the annotation that waives validation. -/
  validationDisabled : Option (List String)
deriving DecidableEq, Inhabited

/-- What is wrong with the metadata of an API. -/
inductive TemplateDefect where
  | emptyReplacement
  | blankReason
  /-- The annotation that waives validation does not carry exactly one reason. -/
  | reasonCount (count : Nat)
deriving DecidableEq

/-- Malformed metadata of an API. -/
structure TemplateError where
  api : String
  defect : TemplateDefect
deriving DecidableEq

/-- The wording of a defect. -/
def TemplateDefect.message : TemplateDefect → String
  | .emptyReplacement => "replacement is empty"
  | .blankReason => "@InlineMeValidationDisabled carries a blank reason"
  | .reasonCount count =>
      s!"@InlineMeValidationDisabled must carry exactly one reason, found {count}"

/-- The wording of a template error. -/
def TemplateError.message (e : TemplateError) : String :=
  "malformed inlining metadata for " ++ e.api ++ ": " ++ e.defect.message

namespace Template

/-- The template of an API with the given parts, if neither replacement nor reason is blank. -/
def make (api replacement : String) (imports staticImports : List String)
    (reason : Option String) : Except TemplateError Template :=
  if hreplacement : isBlankText replacement = false then
    if hreason : reason.any isBlankText = false then
      .ok ⟨replacement, imports, staticImports, reason, hreplacement, hreason⟩
    else .error ⟨api, .blankReason⟩
  else .error ⟨api, .emptyReplacement⟩

/-- The template that the annotations of an API give, if they give one. -/
def ofAnnotations (api : String) (annotations : Annotations) :
    Except TemplateError (Option Template) :=
  match annotations.inlineMe with
  | none => .ok none
  | some inline =>
      match annotations.validationDisabled with
      | none => (make api inline.replacement inline.imports inline.staticImports none).map some
      | some [reason] =>
          (make api inline.replacement inline.imports inline.staticImports (some reason)).map some
      | some reasons => .error ⟨api, .reasonCount reasons.length⟩

/-- Whether the replacement was validated. -/
def isValidated (t : Template) : Bool := t.unvalidatedReason.isNone

end Template

end CallMigration
