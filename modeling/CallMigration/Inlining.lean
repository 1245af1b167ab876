import CallMigration.CallSite.Binding
import CallMigration.Comment
import CallMigration.Finding
import CallMigration.ImportTable
import CallMigration.Settings
import CallMigration.Template.ThisQualifier

/-!
# Inlining one call

A call site is either left alone for a stated reason or answered with a finding. The gates stand in
a fixed order: annotation, prefixes, comments, then the migration itself, which may end in the
deletion of a statement and may have to be seen to compile.

Two collaborators are asked on the way, one about side effects and one about compiling. What they
are asked is part of the result, so that it can be said when they are not.
-/

namespace CallMigration

/-- Why a call site is left alone. -/
inductive NoMatchReason where
  | notAnnotated
  | prefixFiltered
  | containsComments
  | fixDoesNotCompile
  | verifierUnavailable
deriving DecidableEq, Inhabited

/-- The name of a reason. -/
def NoMatchReason.text : NoMatchReason → String
  | .notAnnotated => "not-annotated"
  | .prefixFiltered => "prefix-filtered"
  | .containsComments => "contains-comments"
  | .fixDoesNotCompile => "fix-does-not-compile"
  | .verifierUnavailable => "verifier-unavailable"

/-- The answer for a call site. -/
inductive Verdict where
  | noMatch (reason : NoMatchReason)
  | found (finding : Finding)
deriving DecidableEq

namespace Verdict

/-- The finding of a verdict, if it has one. -/
def finding? : Verdict → Option Finding
  | .noMatch _ => none
  | .found finding => some finding

/-- The reason of a verdict, if it leaves the call alone. -/
def reason? : Verdict → Option NoMatchReason
  | .noMatch reason => some reason
  | .found _ => none

end Verdict

/-- Who is asked about a migration. -/
structure Collaborators where
  /-- Whether evaluating an expression may have a side effect. -/
  hasSideEffect : Expression → Bool
  /-- Whether the source compiles with a fix, where that can be told. -/
  compiles : Option (Fix → Bool)

/-- A verdict together with the questions asked on the way to it. -/
structure Inspection where
  verdict : Verdict
  /-- The expressions whose side effects were asked about. -/
  sideEffectQueries : List Expression
  /-- The fixes that were asked to compile. -/
  compileQueries : List Fix
deriving DecidableEq

/-- The verdict with its finding placed in a file of the given source. -/
def Verdict.located (file source : String) : Verdict → Verdict
  | .noMatch reason => .noMatch reason
  | .found finding => .found (finding.located file source)

/-- The inspection with its finding placed in a file of the given source. -/
def Inspection.located (inspection : Inspection) (file source : String) : Inspection :=
  { inspection with verdict := inspection.verdict.located file source }

namespace CallSite

/-- The types that a template imports as they are spelled in the file, and the imports needed for
that. -/
def spellTypes (table : ImportTable) :
    List String → NewImports → List (String × String) × NewImports
  | [], needed => ([], needed)
  | name :: names, needed =>
      let (spelling, needed) := table.qualify name needed
      let (rest, needed) := spellTypes table names needed
      ((QualifiedName.simpleName name, spelling) :: rest, needed)

/-- Whether the fix can leave the receiver's own text as it stands: the call has a receiver
expression and the template begins with `this.`. -/
def keepsReceiver (site : CallSite) (template : Template) : Bool :=
  site.receiver?.isSome && "this.".toList.isPrefixOf template.replacement.toList

/-- The range that a fix replaces: the call, or what follows its receiver. A receiver that is
itself a call with a fix then stays clear of this edit. -/
def editRange (site : CallSite) (template : Template) : TextRange :=
  match site.receiver? with
  | some receiver =>
      if site.keepsReceiver template then ⟨receiver.range.stop, site.call.range.stop⟩
      else site.call.range
  | none => site.call.range

/-- The text that a fix starts from: the template, without its leading `this` where the receiver
is kept, and without its qualifiers where the call has no receiver. -/
def startText (site : CallSite) (template : Template) : String :=
  let text :=
    if site.keepsReceiver template then String.ofList (template.replacement.toList.drop 4)
    else template.replacement
  match site.receiverText? with
  | none => Template.dropThisQualifiers text
  | some _ => text

/-- The fix that replaces the call by what its template says. -/
def callFix (site : CallSite) (template : Template) (table : ImportTable) : Fix :=
  let (types, needed) := spellTypes table template.imports .none
  let needed := template.staticImports.foldl .addStatic needed
  let substitution : Substitution := ⟨site.receiverText?, types, site.bindings⟩
  ⟨⟨site.editRange template, substitution.apply (site.startText template)⟩, needed⟩

/-- The statement that goes away and the receiver whose evaluation goes with it, where the template
says that the call amounts to its receiver and the call is a statement of its own. -/
def deletable? (site : CallSite) (template : Template) : Option (TextRange × Expression) :=
  if template.replacement = "this" ∧ site.receiverText?.isSome then
    match site.statement, site.receiver? with
    | some statement, some receiver => some (statement, receiver)
    | _, _ => none
  else none

/-- The finding that deletes a statement. -/
def deletion (api : Api) (template : Template) (statement : TextRange) : Finding :=
  .unlocated api statement ⟨.deletion statement, .none⟩ template.isValidated

/-- The finding that replaces the call, once its fix is accepted. -/
def replacement (site : CallSite) (api : Api) (template : Template) (fix : Fix) : Finding :=
  .unlocated api site.call.range fix template.isValidated

/-- Accepts the fix of a call, which has to compile where the settings ask for that and it adds no
imports; `asked` are the side effects that were asked about before. -/
def confirm (site : CallSite) (api : Api) (template : Template) (settings : Settings)
    (collaborators : Collaborators) (fix : Fix) (asked : List Expression) : Inspection :=
  let finding := site.replacement api template fix
  if settings.checkFixCompiles && !fix.addsImports then
    match collaborators.compiles with
    | none => ⟨.noMatch .verifierUnavailable, asked, []⟩
    | some compiles =>
        if compiles fix then ⟨.found finding, asked, [fix]⟩
        else ⟨.noMatch .fixDoesNotCompile, asked, [fix]⟩
  else ⟨.found finding, asked, []⟩

/-- Migrates a call that has passed the gates. -/
def migrate (site : CallSite) (api : Api) (template : Template) (settings : Settings)
    (table : ImportTable) (collaborators : Collaborators) : Inspection :=
  let fix := site.callFix template table
  match site.deletable? template with
  | some (statement, receiver) =>
      if collaborators.hasSideEffect receiver then
        site.confirm api template settings collaborators fix [receiver]
      else ⟨.found (deletion api template statement), [receiver], []⟩
  | none => site.confirm api template settings collaborators fix []

/-- Inlines a call site. -/
def inline (site : CallSite) (template : Option Template) (settings : Settings)
    (table : ImportTable) (collaborators : Collaborators) : Inspection :=
  match template with
  | none => ⟨.noMatch .notAnnotated, [], []⟩
  | some template =>
      let api := Api.ofTarget site.target template
      if !api.matchesPrefixes settings.prefixes then ⟨.noMatch .prefixFiltered, [], []⟩
      else if settings.skipComments && Comment.hasComment site.call.text then
        ⟨.noMatch .containsComments, [], []⟩
      else site.migrate api template settings table collaborators

end CallSite

end CallMigration
