/-!
# Shell scripts

The commands that scripts are made of and the words that commands are made of. A word is a sequence
of parts: text, parameters and the output of scripts. What is quoted is not taken apart when its
value is put in.
-/

namespace CallMigration.Shell

/-- Which end a pattern is taken off, and whether as little or as much as possible goes. -/
structure Trimming where
  atEnd : Bool
  longest : Bool
deriving DecidableEq, Inhabited

/-- What a redirection does to the commands before it. -/
inductive Redirection where
  /-- They read from a file. -/
  | input
  /-- What they write goes to a file, after its old text or in place of it. -/
  | output (descriptor : Nat) (append : Bool)
  /-- What they write goes to the channel of another descriptor. -/
  | channel (descriptor : Nat)
deriving DecidableEq, Inhabited

mutual

/-- A part of a word. -/
inductive Part where
  | text (quoted : Bool) (cs : List Char)
  | parameter (quoted : Bool) (name : String) (use : ParameterUse)
  | output (quoted : Bool) (script : Script)

/-- What is made of the value of a parameter. -/
inductive ParameterUse where
  | value
  | size
  /-- A word stands for the value where that is empty. -/
  | orElse (word : List Part)
  | trimmed (how : Trimming) (pattern : List Part)

/-- A script. -/
inductive Script where
  /-- Nothing is done. -/
  | skip
  /-- A command with its arguments and the variables that only it sees; without a command the
  variables keep the values. -/
  | simple (assignments : List (String × List Part)) (words : List (List Part))
  | redirected (body : Script) (redirections : List (Redirection × List Part))
  /-- A script whose changes to parameters are not seen outside. -/
  | subshell (body : Script)
  | negated (body : Script)
  | sequence (first second : Script)
  /-- The second script runs if the first one succeeds. -/
  | both (first second : Script)
  /-- The second script runs if the first one fails. -/
  | either (first second : Script)
  /-- The second script reads what the first one writes. -/
  | pipe (first second : Script)
  | conditional (condition body otherwise : Script)
  /-- The body runs once for every word, which is the value of a variable meanwhile. -/
  | each (name : String) (words : List (List Part)) (body : Script)
  /-- The body runs as long as the condition succeeds, or as long as it fails. -/
  | loop (untilSuccess : Bool) (condition body : Script)
  /-- The first script of which some pattern describes the subject. -/
  | choice (subject : List Part) (cases : List (List (List Part) × Script))

end

instance : Inhabited Script := ⟨.skip⟩

/-- A word of a script. -/
abbrev Word := List Part

end CallMigration.Shell
