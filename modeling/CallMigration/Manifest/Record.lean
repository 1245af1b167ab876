import CallMigration.CallSite
import CallMigration.Template

/-!
# Recorded call sites

A manifest records call sites of one source file by their ranges. Turning a record into a call site
reads the ranges off the source: the call, the receiver or the class, the arguments, and then checks
that a statement holds its call. The first thing that is wrong is reported.
-/

namespace CallMigration

/-- What a recorded call is. -/
inductive RecordKind where
  | method
  | construction
deriving DecidableEq, Inhabited

/-- One recorded call site. -/
structure CallRecord where
  target : Target
  annotations : Annotations
  kind : RecordKind
  call : TextRange
  receiver : Option TextRange
  keyword : Option SelfKeyword
  /-- The range of the class name in a constructor call. -/
  className : Option TextRange
  arguments : List TextRange
  statement : Option TextRange
  /-- Whether evaluating the receiver has a side effect, where that is known. -/
  receiverSideEffect : Option Bool
deriving DecidableEq, Inhabited

/-- A manifest: the file that was recorded and its call sites. -/
structure Manifest where
  /-- The path of the source file, from the manifest's directory. -/
  source : String
  records : List CallRecord
deriving DecidableEq, Inhabited

/-- What is wrong with a manifest. -/
inductive ManifestError where
  /-- A range names no piece of the source. -/
  | unusableRange (what : String) (range : TextRange)
  /-- A constructor call has no range for its class. -/
  | missingClass (api : String)
  /-- A statement does not hold its call. -/
  | callOutsideStatement (statement call : TextRange)
  | callSite (cause : CallSiteError)
  | template (cause : TemplateError)
deriving DecidableEq

/-- The wording of a manifest error. -/
def ManifestError.message : ManifestError → String
  | .unusableRange what range =>
      "invalid call-site manifest: " ++ what ++ " range " ++ range.describe
        ++ " is not valid source"
  | .missingClass api =>
      "invalid call-site manifest: constructor call to " ++ api ++ " has no class range"
  | .callOutsideStatement statement call =>
      "invalid call-site manifest: statement " ++ statement.describe ++ " does not contain call "
        ++ call.describe
  | .callSite cause => cause.message
  | .template cause => cause.message

namespace CallRecord

/-- The piece of the source that a range names. -/
def slice (source : String) (what : String) (range : TextRange) : Except ManifestError String :=
  match range.slice? source with
  | some text => .ok text
  | none => .error (.unusableRange what range)

/-- The expression that a range names. -/
def expression (source : String) (what : String) (range : TextRange) :
    Except ManifestError Expression :=
  (slice source what range).map fun text => ⟨range, text⟩

/-- The kind of call that is recorded, read off the source. -/
def callKind (r : CallRecord) (source : String) : Except ManifestError CallKind :=
  match r.kind with
  | .method =>
      match r.receiver with
      | none => .ok (.method none r.keyword)
      | some range =>
          (expression source "receiver" range).map fun receiver =>
            .method (some receiver) r.keyword
  | .construction =>
      match r.className with
      | none => .error (.missingClass r.target.id)
      | some range => (slice source "class" range).map .construction

/-- The spellings of the arguments, read off the source. -/
def argumentTexts (source : String) : List TextRange → Except ManifestError (List String)
  | [] => .ok []
  | range :: ranges =>
      match slice source "argument" range with
      | .error cause => .error cause
      | .ok text => (argumentTexts source ranges).map (text :: ·)

/-- Checks that the statement, if one is recorded, holds the call. -/
def checkStatement (r : CallRecord) : Except ManifestError Unit :=
  match r.statement with
  | none => .ok ()
  | some statement =>
      if statement.contains r.call then .ok () else .error (.callOutsideStatement statement r.call)

/-- The call site that is recorded. -/
def site (r : CallRecord) (source : String) : Except ManifestError CallSite := do
  let call ← expression source "call" r.call
  let kind ← r.callKind source
  let arguments ← argumentTexts source r.arguments
  r.checkStatement
  (CallSite.make kind r.target arguments call r.statement).mapError .callSite

/-- The template that the recorded annotations give, if they give one. -/
def template? (r : CallRecord) : Except ManifestError (Option Template) :=
  (Template.ofAnnotations r.target.id r.annotations).mapError .template

end CallRecord

end CallMigration
