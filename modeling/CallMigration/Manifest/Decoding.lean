import CallMigration.Manifest.Record
import CallMigration.Template.Decoding

/-!
# Manifests in JSON

How manifests are written down. Manifests and their records admit no unknown members; targets,
ranges and annotations ignore them.
-/

namespace CallMigration

/-- A range of byte offsets. -/
def TextRange.ofJson? (value : Json) : Option TextRange := do
  let [start, stop] ← value.record? false [["start"], ["end"]] | none
  return {
    start := ← Json.required? Json.offset? start
    stop := ← Json.required? Json.offset? stop }

/-- The declaration that a call resolves to. -/
def Target.ofJson? (value : Json) : Option Target := do
  let [owner, name, package, params, varargs, construction, deprecation] ←
    value.record? false [["owner"], ["name"], ["package"], ["params"], ["varargs"],
      ["constructor"], ["deprecated"]]
    | none
  return {
    owner := ← Json.required? Json.text? owner
    name := ← Json.required? Json.text? name
    package := ← Json.required? Json.text? package
    params := ← Json.orElse? [] (Json.listOf? Json.text?) params
    isVarargs := ← Json.orElse? false Json.bool? varargs
    isConstructor := ← Json.orElse? false Json.bool? construction
    isDeprecated := ← Json.orElse? false Json.bool? deprecation }

/-- The kind of a recorded call. -/
def RecordKind.ofJson? (value : Json) : Option RecordKind :=
  match value.variant? with
  | some "method" => some .method
  | some "constructor" => some .construction
  | _ => none

/-- A keyword that takes the place of a receiver. -/
def SelfKeyword.ofJson? (value : Json) : Option SelfKeyword :=
  match value.variant? with
  | some "this" => some .self
  | some "super" => some .super
  | _ => none

/-- A recorded call site. -/
def CallRecord.ofJson? (value : Json) : Option CallRecord := do
  let [target, annotations, kind, call, receiver, keyword, className, arguments, statement,
      sideEffect] ←
    value.record? true [["target"], ["annotations"], ["kind"], ["call"], ["receiver"],
      ["keyword"], ["class"], ["arguments"], ["statement"], ["receiver_side_effects"]]
    | none
  return {
    target := ← Json.required? Target.ofJson? target
    annotations := ← Json.orElse? .absent Annotations.ofJson? annotations
    kind := ← Json.required? RecordKind.ofJson? kind
    call := ← Json.required? TextRange.ofJson? call
    receiver := ← Json.orElse? none (Json.nullable? TextRange.ofJson?) receiver
    keyword := ← Json.orElse? none (Json.nullable? SelfKeyword.ofJson?) keyword
    className := ← Json.orElse? none (Json.nullable? TextRange.ofJson?) className
    arguments := ← Json.orElse? [] (Json.listOf? TextRange.ofJson?) arguments
    statement := ← Json.orElse? none (Json.nullable? TextRange.ofJson?) statement
    receiverSideEffect := ← Json.orElse? none (Json.nullable? Json.bool?) sideEffect }

/-- A manifest. -/
def Manifest.ofJson? (value : Json) : Option Manifest := do
  let [source, records] ← value.record? true [["source"], ["call_sites"]] | none
  return {
    source := ← Json.required? Json.text? source
    records := ← Json.orElse? [] (Json.listOf? CallRecord.ofJson?) records }

end CallMigration
