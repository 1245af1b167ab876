import CallMigration.Options.Argument

/-!
# Reading command lines

The first argument of a command line may name a command; without one the command is to check.
Arguments are read from the left: a request for help or for the version is answered where it stands,
unless something before it is wrong. That two options exclude each other is looked at last.
-/

namespace CallMigration

namespace CheckOptions

/-- The options with one switched on. -/
def switch (options : CheckOptions) : CheckOption → CheckOptions
  | .keepCommentCallSites => { options with keepCommentCallSites := true }
  | .checkFixCompiles => { options with checkFixCompiles := true }
  | .fix => { options with fix := true }
  | .diff => { options with diff := true }
  | .denyWarnings => { options with denyWarnings := true }
  | _ => options

/-- The options with a value given to one. Prefixes are separated by commas. -/
def assign (options : CheckOptions) (value : String) :
    CheckOption → Except UsageError CheckOptions
  | .format =>
      match OutputFormat.ofText? value with
      | some format => .ok { options with format := format }
      | none => .error (.invalidFormat value)
  | .config =>
      if value = "" then .error .emptyPath else .ok { options with config := some ⟨value⟩ }
  | .apiPrefix =>
      let parts := (Text.splitOn ',' value.toList).map String.ofList
      .ok { options with prefixes := options.prefixes ++ parts }
  | .flag => .ok { options with flags := options.flags ++ [value] }
  | _ => .ok options

/-- The options with one more path. -/
def addPath (options : CheckOptions) (path : String) : Except UsageError CheckOptions :=
  if path = "" then .error .emptyPath else .ok { options with paths := options.paths ++ [⟨path⟩] }

/-- The options with further paths. -/
def addPaths (options : CheckOptions) : List String → Except UsageError CheckOptions
  | [] => .ok options
  | path :: paths =>
      match options.addPath path with
      | .ok options => options.addPaths paths
      | .error cause => .error cause

/-- Takes an option with its value; `given` are the options given before. -/
def take (options : CheckOptions) (given : List CheckOption) (o : CheckOption)
    (value : Option String) : Except UsageError CheckOptions :=
  if given.contains o && !o.isRepeatable then .error (.repeatedOption o.text)
  else
    match o.takesValue, value with
    | true, some value => options.assign value o
    | true, none => .error (.missingValue o.text)
    | false, none => .ok (options.switch o)
    | false, some _ => .error (.unexpectedValue o.text)

/-- Checks that the options do not exclude each other. -/
def finish (named : Bool) (options : CheckOptions) : Except UsageError Request :=
  if options.fix && options.diff then .error .fixWithDiff else .ok (.check named options)

/-- Reads the arguments of a check. -/
def read (named : Bool) (options : CheckOptions) (given : List CheckOption) :
    List String → Except UsageError Request
  | [] => options.finish named
  | text :: rest =>
      match Argument.ofText (!named) text with
      | .endOfOptions =>
          match options.addPaths rest with
          | .ok options => options.finish named
          | .error cause => .error cause
      | .help => .error .help
      | .version => .error .version
      | .invalid cause => .error cause
      | .path text =>
          match options.addPath text with
          | .ok options => read named options given rest
          | .error cause => .error cause
      | .option o value =>
          if o.takesValue && value.isNone then
            match rest with
            | [] => .error (.missingValue o.text)
            | next :: rest =>
                if Argument.isValue next then
                  match options.take given o (some next) with
                  | .ok options => read named options (o :: given) rest
                  | .error cause => .error cause
                else .error (.missingValue o.text)
          else
            match options.take given o value with
            | .ok options => read named options (o :: given) rest
            | .error cause => .error cause

end CheckOptions

namespace Request

/-- Reads the arguments of the command that explains the check: it takes none. -/
def readExplain : List String → Except UsageError Request
  | [] => .ok .explain
  | text :: rest =>
      match Argument.ofText false text with
      | .help => .error .help
      | .endOfOptions =>
          match rest with
          | [] => .ok .explain
          | argument :: _ => .error (.unexpectedArgument argument)
      | _ => .error (.unexpectedArgument text)

/-- Reads the arguments of the command for help: it takes the name of a command. -/
def readHelp : List String → Except UsageError Request
  | [] => .error .help
  | [name] =>
      if ["check", "explain", "help"].contains name then .error .help
      else .error (.unexpectedArgument name)
  | _ :: argument :: _ => .error (.unexpectedArgument argument)

/-- Reads a command line. -/
def read : List String → Except UsageError Request
  | "check" :: rest => CheckOptions.read true {} [] rest
  | "explain" :: rest => readExplain rest
  | "help" :: rest => readHelp rest
  | arguments => CheckOptions.read false {} [] arguments

end Request

end CallMigration
