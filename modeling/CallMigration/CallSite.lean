import CallMigration.Expression

/-!
# Call sites

A call site is one call of an API together with the declaration it resolves to. Two facts hold of
every call site by construction: the number of arguments fits the declaration, and the receiver
lies inside the call. `CallSite.make` checks them in that order.
-/

namespace CallMigration

/-- The declaration that a call resolves to. -/
structure Target where
  /-- The qualified name of the declaring class. -/
  owner : String
  name : String
  package : String
  /-- The names of the declared parameters. -/
  params : List String
  /-- Whether the last parameter takes any number of arguments. -/
  isVarargs : Bool
  isConstructor : Bool
  isDeprecated : Bool
deriving DecidableEq, Inhabited

namespace Target

/-- The identity of the API: its class and its name. -/
def id (t : Target) : String := t.owner ++ "#" ++ t.name

/-- Whether a call with so many arguments fits the declaration. -/
def accepts (t : Target) (arguments : Nat) : Bool :=
  if t.isVarargs then t.params.length ≤ arguments + 1 else arguments == t.params.length

end Target

/-- A keyword that takes the place of a receiver. -/
inductive SelfKeyword where
  /-- The object itself. -/
  | self
  /-- The object as its superclass sees it. -/
  | super
deriving DecidableEq, Inhabited

/-- The spelling of the keyword. -/
def SelfKeyword.text : SelfKeyword → String
  | .self => "this"
  | .super => "super"

/-- What kind of call it is, with the parts that only that kind has. -/
inductive CallKind where
  /-- A method call, on a receiver expression or a keyword or neither. -/
  | method (receiver : Option Expression) (keyword : Option SelfKeyword)
  /-- A constructor call, with the class as it is spelled. -/
  | construction (classText : String)
deriving DecidableEq, Inhabited

namespace CallKind

/-- The receiver expression of a method call. -/
def receiver? : CallKind → Option Expression
  | .method receiver _ => receiver
  | .construction _ => none

/-- Whether the receiver, if there is one, lies in the given range. -/
def receiverWithin (kind : CallKind) (call : TextRange) : Bool :=
  kind.receiver?.all fun r => call.contains r.range

end CallKind

/-- One call of an API. -/
structure CallSite where
  kind : CallKind
  target : Target
  /-- The spellings of the arguments. -/
  arguments : List String
  call : Expression
  /-- The range of the statement, where the call is all there is to it. -/
  statement : Option TextRange
  arguments_fit : target.accepts arguments.length = true
  receiver_within : kind.receiverWithin call.range = true
deriving DecidableEq

/-- Why a call site is not accepted. -/
inductive CallSiteError where
  /-- The number of arguments does not fit the declaration. -/
  | arityMismatch (api : String) (declared actual : Nat) (isVarargs : Bool)
  /-- The receiver lies outside the call. -/
  | receiverOutside (receiver call : TextRange)
deriving DecidableEq

/-- The wording of a call site error. -/
def CallSiteError.message : CallSiteError → String
  | .arityMismatch api declared actual isVarargs =>
      s!"argument count mismatch for {api}: {actual} argument(s) for {declared} " ++
        s!"declared parameter(s), varargs={isVarargs}"
  | .receiverOutside receiver call =>
      "receiver range " ++ receiver.describe ++ " lies outside call range " ++ call.describe

namespace CallSite

/-- The call site with the given parts, if the arguments fit and the receiver lies inside. -/
def make (kind : CallKind) (target : Target) (arguments : List String) (call : Expression)
    (statement : Option TextRange) : Except CallSiteError CallSite :=
  if fit : target.accepts arguments.length then
    if within : kind.receiverWithin call.range then
      .ok ⟨kind, target, arguments, call, statement, fit, within⟩
    else .error (.receiverOutside ((kind.receiver?.map (·.range)).getD call.range) call.range)
  else
    .error (.arityMismatch target.id target.params.length arguments.length target.isVarargs)

/-- Whether the call constructs an object. -/
def isConstruction (site : CallSite) : Bool :=
  match site.kind with
  | .method _ _ => false
  | .construction _ => true

/-- The receiver expression, which only a method call can have. -/
def receiver? (site : CallSite) : Option Expression := site.kind.receiver?

/-- The receiver of a call lies inside it. -/
theorem contains_receiver {site : CallSite} {receiver : Expression}
    (h : site.receiver? = some receiver) : site.call.range.contains receiver.range = true := by
  have hwithin := site.receiver_within
  rw [CallKind.receiverWithin, ← receiver?, h] at hwithin
  simpa using hwithin

/-- The text that stands for the receiver: the keyword if there is one, else the receiver's spelling
unless it is empty; for a constructor call the `new` expression. -/
def receiverText? (site : CallSite) : Option String :=
  match site.kind with
  | .method _ (some keyword) => some keyword.text
  | .method receiver none => (receiver.map (·.text)).filter (· ≠ "")
  | .construction classText => some ("new " ++ classText)

/-- Whether no argument is left for the parameter of variable length. -/
def hasEmptyVarargs (site : CallSite) : Bool :=
  site.target.isVarargs && site.arguments.length + 1 == site.target.params.length

end CallSite

end CallMigration
