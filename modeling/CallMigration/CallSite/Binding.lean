import CallMigration.CallSite
import CallMigration.Substitution

/-!
# Binding arguments to parameters

Each declared parameter is bound to the argument at its place. The last parameter of a
declaration with variable arity is bound to all remaining arguments, joined by commas; where none
remains its binding says so.
-/

namespace CallMigration.CallSite

/-- Parameters and arguments paired by place. -/
def positional (params arguments : List String) : List Binding :=
  List.zipWith (fun name value => ⟨name, value, false⟩) params arguments

/-- The binding of the parameter of variable length. -/
def varargsBinding (site : CallSite) (name : String) : Binding :=
  if site.hasEmptyVarargs then ⟨name, "", true⟩
  else ⟨name, ", ".intercalate (site.arguments.drop (site.target.params.length - 1)), false⟩

/-- What the parameters of the declaration are bound to. -/
def bindings (site : CallSite) : List Binding :=
  match site.target.isVarargs, site.target.params.getLast? with
  | true, some name =>
      positional site.target.params.dropLast site.arguments ++ [site.varargsBinding name]
  | _, _ => positional site.target.params site.arguments

end CallMigration.CallSite
