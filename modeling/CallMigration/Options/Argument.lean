import CallMigration.Options
import CallMigration.Text.Trim

/-!
# Command line arguments

The options of a check by their spelling, and how a single argument is to be understood. A long
option carries its value after `=`, a short one right after its letter, with or without `=`; the
value may also be the next argument.
-/

namespace CallMigration

/-- The format of a name. -/
def OutputFormat.ofText? : String → Option OutputFormat
  | "pretty" => some .pretty
  | "json" => some .json
  | "github" => some .github
  | _ => none

/-- Why the reader of a command line comes to no request. -/
inductive UsageError where
  /-- Help was asked for. -/
  | help
  /-- The version was asked for. -/
  | version
  | unknownOption (spelling : String)
  | unexpectedArgument (argument : String)
  | missingValue (option : String)
  | unexpectedValue (option : String)
  | invalidFormat (name : String)
  | emptyPath
  | repeatedOption (option : String)
  | fixWithDiff
deriving DecidableEq

/-- An option of a check. -/
inductive CheckOption where
  | format
  | config
  | apiPrefix
  | flag
  | keepCommentCallSites
  | checkFixCompiles
  | fix
  | diff
  | denyWarnings
deriving DecidableEq

namespace CheckOption

/-- The spelling of an option. -/
def text : CheckOption → String
  | .format => "--format"
  | .config => "--config"
  | .apiPrefix => "--prefix"
  | .flag => "-X"
  | .keepCommentCallSites => "--keep-comment-callsites"
  | .checkFixCompiles => "--check-fix-compiles"
  | .fix => "--fix"
  | .diff => "--diff"
  | .denyWarnings => "--deny-warnings"

/-- The options that are spelled out after two dashes. -/
def long : List CheckOption :=
  [.format, .config, .apiPrefix, .keepCommentCallSites, .checkFixCompiles, .fix, .diff,
    .denyWarnings]

/-- Whether an option takes a value. -/
def takesValue : CheckOption → Bool
  | .format | .config | .apiPrefix | .flag => true
  | _ => false

/-- Whether an option may be given more than once. -/
def isRepeatable : CheckOption → Bool
  | .apiPrefix | .flag => true
  | _ => false

end CheckOption

/-- How an argument is to be understood. -/
inductive Argument where
  /-- Nothing after this argument is an option. -/
  | endOfOptions
  /-- A request for help. -/
  | help
  /-- A request for the version. -/
  | version
  /-- An option, with the value that is written in the same argument, if there is one. -/
  | option (o : CheckOption) (value : Option String)
  | path (text : String)
  | invalid (cause : UsageError)
deriving DecidableEq

namespace Argument

/-- The name of a long option and the value after its first `=`. -/
def splitValue (cs : List Char) : String × Option String :=
  match Text.splitOnce? '=' cs with
  | some (name, value) => (String.ofList name, some (String.ofList value))
  | none => (String.ofList cs, none)

/-- Understands an argument that begins with two dashes, from what follows them. -/
def ofLong (hasVersion : Bool) (cs : List Char) : Argument :=
  let (name, value) := splitValue cs
  if name = "help" ∨ (name = "version" ∧ hasVersion) then
    if value.isSome then .invalid (.unexpectedValue ("--" ++ name))
    else if name = "help" then .help
    else .version
  else
    match CheckOption.long.find? (·.text = "--" ++ name) with
    | some o => .option o value
    | none => .invalid (.unknownOption ("--" ++ name))

/-- Understands an argument that begins with one dash, from what follows it. -/
def ofShort (hasVersion : Bool) : List Char → Argument
  | 'X' :: rest =>
      .option .flag <| match rest with
        | [] => none
        | '=' :: value => some (String.ofList value)
        | value => some (String.ofList value)
  | 'h' :: _ => .help
  | c :: _ =>
      if c = 'V' ∧ hasVersion then .version else .invalid (.unknownOption (String.ofList ['-', c]))
  | [] => .path "-"

/-- Understands an argument. -/
def ofText (hasVersion : Bool) (text : String) : Argument :=
  match text.toList with
  | ['-', '-'] => .endOfOptions
  | '-' :: '-' :: rest => ofLong hasVersion rest
  | '-' :: rest => ofShort hasVersion rest
  | _ => .path text

/-- Whether an argument may be the value of the option before it. -/
def isValue (text : String) : Bool :=
  match text.toList with
  | ['-'] => true
  | '-' :: _ => false
  | _ => true

end Argument

end CallMigration
