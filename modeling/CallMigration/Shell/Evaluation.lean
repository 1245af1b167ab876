import CallMigration.Pattern.Glob
import CallMigration.Shell.Reader
import CallMigration.Shell.Utility

/-!
# Running shell scripts

A script runs from a state to a state and writes a text. Time is counted, not spent: a program says
how long it takes, and what runs side by side takes as long as the slower one.

How deep a run may go is bounded; a run that goes deeper fails.
-/

namespace CallMigration.Shell

/-- What a script sees and changes. -/
structure State where
  /-- The name of the script, which is the parameter `0`. -/
  name : String
  /-- The parameters that are numbered from one. -/
  arguments : List String
  /-- The values of variables by their names. -/
  values : List (String × String)
  /-- The status of the last command. -/
  status : Nat
  /-- Whether the command that is being expanded has taken in what a script writes. -/
  substituted : Bool
  /-- The milliseconds that have gone by. -/
  elapsed : Nat
  files : Files
  /-- Whether a command that fails ends the script. -/
  stopOnFailure : Bool
  /-- Whether the script is told to go no further. -/
  exited : Bool
deriving Inhabited

namespace State

/-- The value of a parameter. -/
def value (s : State) (name : String) : String :=
  match name with
  | "#" => toString s.arguments.length
  | "?" => toString s.status
  | "@" | "*" => " ".intercalate s.arguments
  | "0" => s.name
  | "$" => "1"
  | name =>
      match name.toNat? with
      | some n => (s.arguments[n - 1]?).getD ""
      | none => (s.values.lookup name).getD ""

/-- The state before a script with the given variables. -/
def initial (files : Files) (values : List (String × String)) : State :=
  ⟨"sh", [], values, 0, false, 0, files, false, false⟩

/-- The state with a value given to a variable. -/
def assign (s : State) (name value : String) : State :=
  { s with values := (name, value) :: s.values.filter (·.1 != name) }

/-- The state with a changed option, where it is the one that ends scripts on failure. -/
def setOptions (s : State) (word : String) : State :=
  match word.toList with
  | '-' :: letters => if letters.contains 'e' then { s with stopOnFailure := true } else s
  | '+' :: letters => if letters.contains 'e' then { s with stopOnFailure := false } else s
  | _ => s

/-- The state in which failures are looked at and end nothing. -/
def tolerant (s : State) : State := { s with stopOnFailure := false }

/-- The state after a part in which failures ended nothing. -/
def strictAs (s before : State) : State := { s with stopOnFailure := before.stopOnFailure }

/-- The state after a command, the failure of which may end the script. -/
def checked (s : State) : State :=
  if s.stopOnFailure && s.status != 0 then { s with exited := true } else s

/-- The state after a command of the given status. -/
def withStatus (s : State) (status : Nat) : State := { s with status := status }

/-- The state after a command that was nothing but expanded: its status is that of the last script
it took in, or success. -/
def expanded (s : State) : State := if s.substituted then s else s.withStatus 0

/-- The state after a part that ran on its own: its parameters are forgotten. -/
def afterInner (s inner : State) : State :=
  { s with status := inner.status, elapsed := inner.elapsed, files := inner.files }

/-- The state of a run that went too deep. -/
def tooDeep (s : State) : State := { s with status := 2, exited := true }

end State

/-- A piece of an expanded word. -/
inductive Piece where
  /-- Characters that stay together. -/
  | joined (cs : List Pattern.GlobChar)
  /-- A text that blanks take apart. -/
  | loose (text : String)
  /-- Words of their own. -/
  | separate (texts : List String)

namespace Piece

/-- The characters of a text as quoted ones. -/
def quotedChars (text : String) : List Pattern.GlobChar := text.toList.map (·, true)

/-- The characters of a text as they are. -/
def bareChars (text : String) : List Pattern.GlobChar := text.toList.map (·, false)

/-- A value put in for a part of a word. -/
def ofValue (quoted : Bool) (value : String) : Piece :=
  if quoted then .joined (quotedChars value) else .loose value

/-- All characters of pieces. -/
def chars : List Piece → List Pattern.GlobChar
  | [] => []
  | .joined cs :: rest => cs ++ chars rest
  | .loose text :: rest => bareChars text ++ chars rest
  | .separate texts :: rest => quotedChars (" ".intercalate texts) ++ chars rest

/-- The text of pieces. -/
def text (pieces : List Piece) : String := String.ofList ((chars pieces).map (·.1))

/-- Adds a text that blanks take apart to the words so far: those that are complete, last one first,
and the one that may go on. -/
def addLoose : List Char → List String × Option (List Char) → List String × Option (List Char)
  | [], words => words
  | c :: cs, (complete, current) =>
      if c = ' ' ∨ c = '\t' ∨ c = '\n' then
        addLoose cs (match current with
          | some word => (String.ofList word :: complete, none)
          | none => (complete, none))
      else addLoose cs (complete, some ((current.getD []) ++ [c]))

/-- Adds words of their own, the first of which goes on with the current one. -/
def addSeparate :
    List String → List String × Option (List Char) → List String × Option (List Char)
  | [], words => words
  | [text], (complete, current) => (complete, some ((current.getD []) ++ text.toList))
  | text :: texts, (complete, current) =>
      addSeparate texts (String.ofList ((current.getD []) ++ text.toList) :: complete, none)

/-- The words that pieces make up. -/
def words (pieces : List Piece) : List String :=
  let (complete, current) := pieces.foldl (fun (complete, current) piece =>
    match piece with
    | .joined cs => (complete, some ((current.getD []) ++ cs.map (·.1)))
    | .loose text => addLoose text.toList (complete, current)
    | .separate texts => addSeparate texts (complete, current)) ([], none)
  (complete.reverse) ++ (current.map String.ofList).toList

end Piece

/-- The value without what a pattern describes at one of its ends. -/
def trimValue (how : Trimming) (pattern : List Pattern.GlobChar) (value : String) : String :=
  let p := Pattern.ofGlob pattern
  let cs := value.toList
  let sizes := List.range (cs.length + 1)
  let sizes := if how.longest then sizes.reverse else sizes
  let part (n : Nat) := if how.atEnd then cs.drop (cs.length - n) else cs.take n
  match sizes.find? fun n => p.describes (part n) with
  | some n => String.ofList (if how.atEnd then cs.take (cs.length - n) else cs.drop n)
  | none => value

/-- The text without the line feeds at its end. -/
def withoutLastLineFeeds (text : String) : String :=
  String.ofList (text.toList.reverse.dropWhile (· = '\n')).reverse

/-- The input that redirections leave to a script; `none` if a file cannot be read. -/
def redirectedInput? (files : Files) (input : String) :
    List (Redirection × String) → Option String
  | [] => some input
  | (.input, path) :: rest =>
      match files.read? path with
      | some text => redirectedInput? files text rest
      | none => none
  | _ :: rest => redirectedInput? files input rest

/-- Where redirections send what a script writes: to a file, away, or on as it is. -/
inductive Sink where
  | onward
  | away
  | file (path : String) (append : Bool)
deriving DecidableEq

/-- Where redirections send what a script writes. -/
def sinkOf (sink : Sink) : List (Redirection × String) → Sink
  | [] => sink
  | (.output 1 append, path) :: rest => sinkOf (.file path append) rest
  | (.channel 1, "2") :: rest => sinkOf .away rest
  | (.channel 1, "-") :: rest => sinkOf .away rest
  | _ :: rest => sinkOf sink rest

/-- The name of a program without a directory of programs before it. -/
def programName (program : String) : String :=
  let cs := program.toList
  match ["/bin/", "/usr/bin/"].find? fun directory => directory.toList.isPrefixOf cs with
  | some directory => String.ofList (cs.drop directory.length)
  | none => program

/-- Whether a program is the shell itself. -/
def isShell (program : String) : Bool := ["sh", "bash", "dash"].contains program

/-- What the shell is asked to run. -/
structure Invocation where
  script : String
  name : String
  arguments : List String
  stopOnFailure : Bool

/-- Reads the arguments of the shell: options, then the text of a script or the path of one, then
its name and arguments. -/
def Invocation.read? (files : Files) (input : String) (asText stopOnFailure : Bool) :
    List String → Option Invocation
  | [] => if asText then none else some ⟨input, "sh", [], stopOnFailure⟩
  | word :: rest =>
      match word.toList with
      | '-' :: c :: letters =>
          let letters := c :: letters
          if letters.all fun c => "ceuxl".toList.contains c then
            Invocation.read? files input (asText || letters.contains 'c')
              (stopOnFailure || letters.contains 'e') rest
          else none
      | _ =>
          if asText then
            some ⟨word, rest.headD "sh", rest.tail, stopOnFailure⟩
          else
            (files.read? word).map fun script => ⟨script, word, rest, stopOnFailure⟩

mutual

/-- The pieces of a word. -/
def expand (depth : Nat) (s : State) (input : String) (word : Word) : State × List Piece :=
  match depth with
  | 0 => (s.tooDeep, [])
  | depth + 1 =>
      match word with
      | [] => (s, [])
      | part :: parts =>
          let (s, piece) : State × Piece :=
            match part with
            | .text quoted cs => (s, .joined (cs.map (·, quoted)))
            | .parameter true "@" .value => (s, .separate s.arguments)
            | .parameter quoted name .value => (s, .ofValue quoted (s.value name))
            | .parameter quoted name .size =>
                (s, .ofValue quoted (toString (s.value name).length))
            | .parameter quoted name (.orElse word) =>
                if s.value name = "" then
                  let (s, pieces) := expand depth s input word
                  (s, .ofValue quoted (Piece.text pieces))
                else (s, .ofValue quoted (s.value name))
            | .parameter quoted name (.trimmed how pattern) =>
                let (s, pieces) := expand depth s input pattern
                (s, .ofValue quoted (trimValue how (Piece.chars pieces) (s.value name)))
            | .output quoted script =>
                let (inner, text) := run depth s input script
                ({ s.afterInner inner with substituted := true },
                  .ofValue quoted (withoutLastLineFeeds text))
          let (s, pieces) := expand depth s input parts
          (s, piece :: pieces)

/-- The pieces of several words. -/
def expandAll (depth : Nat) (s : State) (input : String) (words : List Word) :
    State × List (List Piece) :=
  match depth with
  | 0 => (s.tooDeep, [])
  | depth + 1 =>
      match words with
      | [] => (s, [])
      | word :: words =>
          let (s, pieces) := expand depth s input word
          let (s, rest) := expandAll depth s input words
          (s, pieces :: rest)

/-- Runs a script. -/
def run (depth : Nat) (s : State) (input : String) (script : Script) : State × String :=
  match depth with
  | 0 => (s.tooDeep, "")
  | depth + 1 =>
      if s.exited then (s, "")
      else
        match script with
        | .skip => (s, "")
        | .simple assignments words =>
            let (s, expanded) := expandAll depth { s with substituted := false } input words
            match expanded.flatMap Piece.words with
            | [] =>
                let (s, values) := expandAll depth s input (assignments.map (·.2))
                let named := (assignments.map (·.1)).zip (values.map Piece.text)
                ((named.foldl (fun s (name, value) => s.assign name value) s.expanded).checked, "")
            | program :: arguments =>
                let (s, values) := expandAll depth s input (assignments.map (·.2))
                let named := (assignments.map (·.1)).zip (values.map Piece.text)
                let (s, text) := runProgram depth s named input program arguments
                (s.checked, text)
        | .redirected body redirections =>
            let (s, targets) := expandAll depth s input (redirections.map (·.2))
            let resolved := (redirections.map (·.1)).zip (targets.map Piece.text)
            match redirectedInput? s.files input resolved with
            | none => (s.withStatus 2, "")
            | some input =>
                let (s, text) := run depth s input body
                match sinkOf .onward resolved with
                | .onward => (s, text)
                | .away => (s, "")
                | .file path append => ({ s with files := s.files.write path text append }, "")
        | .subshell body =>
            let (inner, text) := run depth s input body
            ((s.afterInner inner).checked, text)
        | .negated body =>
            let (after, text) := run depth s.tolerant input body
            let after := after.strictAs s
            (if after.exited then after else after.withStatus (if after.status = 0 then 1 else 0),
              text)
        | .sequence first second =>
            let (s, before) := run depth s input first
            let (s, after) := run depth s input second
            (s, before ++ after)
        | .both first second =>
            let (middle, before) := run depth s.tolerant input first
            let middle := middle.strictAs s
            if middle.status = 0 then
              let (s, after) := run depth middle input second
              (s, before ++ after)
            else (middle, before)
        | .either first second =>
            let (middle, before) := run depth s.tolerant input first
            let middle := middle.strictAs s
            if middle.status = 0 then (middle, before)
            else
              let (s, after) := run depth middle input second
              (s, before ++ after)
        | .pipe first second =>
            let (writer, text) := run depth s input first
            let (reader, text) := run depth { s with files := writer.files } text second
            ((s.afterInner { reader with elapsed := max writer.elapsed reader.elapsed }).checked,
              text)
        | .conditional condition body otherwise =>
            let (middle, before) := run depth s.tolerant input condition
            let chosen := if middle.status = 0 then body else otherwise
            let (s, after) := runBody depth (middle.strictAs s) input chosen
            (s, before ++ after)
        | .each name words body =>
            let (s, expanded) := expandAll depth s input words
            runEach depth s 0 input name (expanded.flatMap Piece.words) body
        | .loop untilSuccess condition body =>
            runLoop depth s 0 input untilSuccess condition body
        | .choice subject cases =>
            let (s, pieces) := expand depth s input subject
            runCases depth s input (Piece.text pieces) cases

/-- Runs a script that is chosen by a condition; without one there is success. -/
def runBody (depth : Nat) (s : State) (input : String) (body : Script) : State × String :=
  match depth with
  | 0 => (s.tooDeep, "")
  | depth + 1 =>
      match body with
      | .skip => (if s.exited then s else s.withStatus 0, "")
      | body => run depth s input body

/-- Runs a script once for every word; `last` is the status of the run before. -/
def runEach (depth : Nat) (s : State) (last : Nat) (input name : String) (words : List String)
    (body : Script) : State × String :=
  match depth with
  | 0 => (s.tooDeep, "")
  | depth + 1 =>
      if s.exited then (s, "")
      else
        match words with
        | [] => (s.withStatus last, "")
        | word :: words =>
            let (s, before) := run depth (s.assign name word) input body
            let (s, after) := runEach depth s s.status input name words body
            (s, before ++ after)

/-- Runs a script as long as a condition fails or succeeds; `last` is the status of the run
before. -/
def runLoop (depth : Nat) (s : State) (last : Nat) (input : String) (untilSuccess : Bool)
    (condition body : Script) : State × String :=
  match depth with
  | 0 => (s.tooDeep, "")
  | depth + 1 =>
      let (middle, before) := run depth s.tolerant input condition
      let middle := middle.strictAs s
      if middle.exited then (middle, before)
      else if (middle.status == 0) == untilSuccess then (middle.withStatus last, before)
      else
        let (s, during) := run depth middle input body
        if s.exited then (s, before ++ during)
        else
          let (s, after) := runLoop depth s s.status input untilSuccess condition body
          (s, before ++ during ++ after)

/-- Runs the first of several scripts of which some pattern describes the subject. -/
def runCases (depth : Nat) (s : State) (input subject : String)
    (cases : List (List Word × Script)) : State × String :=
  match depth with
  | 0 => (s.tooDeep, "")
  | depth + 1 =>
      match cases with
      | [] => (if s.exited then s else s.withStatus 0, "")
      | (patterns, body) :: cases =>
          let (s, globs) := expandAll depth s input patterns
          if globs.any fun pieces =>
              (Pattern.ofGlob (Piece.chars pieces)).describes subject.toList then
            runBody depth s input body
          else runCases depth s input subject cases

/-- Runs a program by its name; if it is a shell, it sees the given variables. -/
def runProgram (depth : Nat) (s : State) (environment : List (String × String))
    (input program : String) (arguments : List String) : State × String :=
  match depth with
  | 0 => (s.tooDeep, "")
  | depth + 1 =>
      match program, arguments with
      | ":", _ => (s.withStatus 0, "")
      | "exit", [] | "return", [] => ({ s with exited := true }, "")
      | "exit", status :: _ | "return", status :: _ =>
          ({ s with status := (status.toNat?.getD 2) % 256, exited := true }, "")
      | "set", words => ((words.foldl State.setOptions s).withStatus 0, "")
      | "unset", names =>
          ({ s with values := s.values.filter fun v => !names.contains v.1, status := 0 }, "")
      | "shift", _ =>
          ({ s with arguments := s.arguments.drop 1,
                    status := if s.arguments.isEmpty then 2 else 0 }, "")
      | "cd", [path] => (s.withStatus (if s.files.hasDirectory path then 0 else 2), "")
      | "command", program :: arguments => runProgram depth s environment input program arguments
      | "exec", program :: arguments =>
          let (s, text) := runProgram depth s environment input program arguments
          ({ s with exited := true }, text)
      | program, arguments =>
          if isShell (programName program) then
            let (inner, text) := runShell depth s.files environment input arguments
            (s.afterInner { inner with elapsed := s.elapsed + inner.elapsed }, text)
          else
            match Utility.run? s.files input (programName program) arguments with
            | none => (s.withStatus 127, "")
            | some ending =>
                ({ s with status := ending.status, elapsed := s.elapsed + ending.elapsed },
                  ending.output)

/-- Runs the shell with its arguments. -/
def runShell (depth : Nat) (files : Files) (environment : List (String × String))
    (input : String) (arguments : List String) : State × String :=
  let s := State.initial files environment
  match depth with
  | 0 => (s.tooDeep, "")
  | depth + 1 =>
      match Invocation.read? files input false false arguments with
      | none => (s.withStatus 2, "")
      | some call =>
          match Script.read? call.script with
          | none => (s.withStatus 2, "")
          | some script =>
              run depth { s with name := call.name, arguments := call.arguments,
                                 stopOnFailure := call.stopOnFailure } input script

end

/-- How deep a run may go. -/
def maxDepth : Nat := 10000

/-- How a program ends that runs on files, without input; `none` if there is no such program. -/
def execute? (files : Files) (program : String) (arguments : List String) : Option Ending :=
  let name := programName program
  if isShell name then
    let (s, text) := runShell maxDepth files [] "" arguments
    some ⟨s.status, text, s.elapsed⟩
  else Utility.run? files "" name arguments

end CallMigration.Shell
