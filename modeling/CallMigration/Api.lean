import CallMigration.CallSite
import CallMigration.QualifiedName
import CallMigration.Template
import CallMigration.Text.Trim

/-!
# The API that is called

How the API behind a call is named in findings and how configured prefixes select it.
-/

namespace CallMigration

/-- The API behind a call, as findings name it. -/
structure Api where
  className : String
  methodName : String
  packageName : String
  isConstructor : Bool
  isDeprecated : Bool
  /-- A note for the end of the message. -/
  extraMessage : String
deriving DecidableEq, Inhabited

namespace Api

/-- The API that a call with the given template resolves to. -/
def ofTarget (target : Target) (template : Template) : Api where
  className := target.owner
  methodName := target.name
  packageName := target.package
  isConstructor := target.isConstructor
  isDeprecated := target.isDeprecated
  extraMessage :=
    match template.unvalidatedReason with
    | some reason => " NOTE: this is an unvalidated inlining! Reasoning: " ++ reason
    | none => ""

/-- The identity that prefixes are compared with. -/
def id (api : Api) : String := api.className ++ "#" ++ api.methodName

/-- The class name without its package, where the package is known. -/
def readableClass (api : Api) : String :=
  if api.packageName = "" then api.className
  else
    match Text.stripStart? (api.packageName ++ ".").toList api.className.toList with
    | some rest => String.ofList rest
    | none => api.className

/-- The name of the API as it is shown to the reader. -/
def shortName (api : Api) : String := "`" ++ api.readableClass ++ "." ++ api.methodName ++ "()`"

/-- The simple name of the class. -/
def simpleClassName (api : Api) : String := QualifiedName.simpleName api.className

/-- The message of a finding. -/
def message (api : Api) : String :=
  "Migrate (via inlining) away from " ++ (if api.isDeprecated then "deprecated " else "")
    ++ api.shortName ++ "." ++ api.extraMessage

/-- Whether one of the prefixes begins the identity of the API; without prefixes every API is
selected. -/
def matchesPrefixes (api : Api) (prefixes : List String) : Bool :=
  prefixes.isEmpty || prefixes.any fun p => p.toList.isPrefixOf api.id.toList

end Api

end CallMigration
