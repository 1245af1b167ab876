import CallMigration.Shell.Script

/-!
# Reading shell scripts

A recursive descent over the characters of a script. Words end at blanks and at signs that part
commands; reserved words count only where a command may begin. Here-documents, functions and
arithmetic are not understood.
-/

namespace CallMigration.Shell

/-- Whether a character ends a word. -/
def isMeta (c : Char) : Bool := " \t\n;&|()<>".toList.contains c

/-- Whether a character can be part of the name of a parameter. -/
def isNameChar (c : Char) : Bool := c.isAlphanum || c == '_'

/-- Whether a text can be the name of a parameter that is assigned to. -/
def isName (cs : List Char) : Bool :=
  cs.all isNameChar && cs.head?.any fun c => !c.isDigit

/-- Whether a character names a parameter of its own. -/
def isSpecial (c : Char) : Bool := "#@*?$!-".toList.contains c || c.isDigit

/-- Whether a character keeps its meaning within a word. -/
def isPlain (c : Char) : Bool := !("'\"\\$\x60".toList.contains c)

/-- The text without blanks and a comment at its beginning. -/
def skipBlanks : List Char → List Char
  | ' ' :: rest => skipBlanks rest
  | '\t' :: rest => skipBlanks rest
  | '\\' :: '\n' :: rest => skipBlanks rest
  | '#' :: rest => rest.dropWhile (· ≠ '\n')
  | rest => rest

/-- The text without blanks, comments and line breaks at its beginning. -/
def skipLines : Nat → List Char → List Char
  | 0, cs => cs
  | fuel + 1, cs =>
      match skipBlanks cs with
      | '\n' :: rest => skipLines fuel rest
      | rest => rest

/-- The reserved word that a text begins with, if it begins with one. -/
def reserved? (cs : List Char) : Option String :=
  let word := cs.takeWhile fun c => !isMeta c && isPlain c
  let after := cs.drop word.length
  let text := String.ofList word
  if after.head?.all isMeta
      && ["!", "\x7b", "\x7d", "if", "then", "elif", "else", "fi", "case", "in", "esac", "while",
        "until", "for", "do", "done"].contains text then some text
  else none

/-- The text after a reserved word, if it begins with that. -/
def afterReserved? (word : String) (cs : List Char) : Option (List Char) :=
  if reserved? cs = some word then some (cs.drop word.length) else none

/-- Whether no command begins with the text. -/
def endsScript (cs : List Char) : Bool :=
  match cs with
  | [] => true
  | ')' :: _ => true
  | ';' :: ';' :: _ => true
  | cs =>
      (reserved? cs).any fun word =>
        ["\x7d", "then", "elif", "else", "fi", "esac", "do", "done"].contains word

/-- A command with redirections around it. -/
def Script.withRedirections (script : Script) :
    List (Redirection × Word) → Script
  | [] => script
  | redirections => .redirected script redirections

/-- The assignment that a word is, if it is one. -/
def assignment? : Word → Option (String × Word)
  | .text false cs :: parts =>
      match cs.dropWhile (· ≠ '=') with
      | '=' :: value =>
          let name := cs.takeWhile (· ≠ '=')
          if isName name then
            some (String.ofList name, if value.isEmpty then parts else .text false value :: parts)
          else none
      | _ => none
  | _ => none

/-- The assignments that words begin with, and the words after them. -/
def splitAssignments : List Word → List (String × Word) × List Word
  | [] => ([], [])
  | word :: words =>
      match assignment? word with
      | some a =>
          let (assignments, rest) := splitAssignments words
          (a :: assignments, rest)
      | none => ([], word :: words)

/-- The script of a command's words. -/
def ofWords (words : List Word) : Script :=
  let (assignments, rest) := splitAssignments words
  .simple assignments rest

/-- What follows an operator of redirection: its kind, and the rest. -/
def redirection? : List Char → Option (Redirection × List Char)
  | '<' :: '<' :: _ => none
  | '<' :: '&' :: _ => none
  | '<' :: rest => some (.input, rest)
  | '>' :: '>' :: rest => some (.output 1 true, rest)
  | '>' :: '&' :: rest => some (.channel 1, rest)
  | '>' :: '|' :: rest => some (.output 1 false, rest)
  | '>' :: rest => some (.output 1 false, rest)
  | d :: '>' :: '>' :: rest =>
      if d.isDigit then some (.output (d.toNat - 48) true, rest) else none
  | d :: '>' :: '&' :: rest => if d.isDigit then some (.channel (d.toNat - 48), rest) else none
  | d :: '>' :: rest => if d.isDigit then some (.output (d.toNat - 48) false, rest) else none
  | _ => none

/-- Whether a redirection begins the text. -/
def isRedirection : List Char → Bool
  | '<' :: _ => true
  | '>' :: _ => true
  | d :: '>' :: _ => d.isDigit
  | _ => false

/-- What is taken off a parameter, by the signs before the pattern. -/
def trimming? : List Char → Option (Trimming × List Char)
  | '#' :: '#' :: rest => some (⟨false, true⟩, rest)
  | '#' :: rest => some (⟨false, false⟩, rest)
  | '%' :: '%' :: rest => some (⟨true, true⟩, rest)
  | '%' :: rest => some (⟨true, false⟩, rest)
  | _ => none

mutual

/-- Reads parts up to a character that ends them, which is left. -/
def parts? (fuel : Nat) (stop : Char → Bool) (cs : List Char) : Option (Word × List Char) :=
  match fuel with
  | 0 => none
  | fuel + 1 =>
      match cs with
      | [] => some ([], [])
      | c :: rest =>
          if stop c then some ([], cs)
          else
            let first : Option (Word × List Char) :=
              if c = '\'' then
                match rest.dropWhile (· ≠ '\'') with
                | _ :: after => some ([.text true (rest.takeWhile (· ≠ '\''))], after)
                | [] => none
              else if c = '"' then
                (quoted? fuel rest).map fun (parts, rest) => (.text true [] :: parts, rest)
              else if c = '\\' then
                match rest with
                | '\n' :: rest => some ([], rest)
                | c :: rest => some ([.text true [c]], rest)
                | [] => some ([.text true ['\\']], [])
              else if c = '$' ∨ c = '\x60' then
                (expansion? fuel false c rest).map fun (part, rest) => ([part], rest)
              else
                some ([.text false (cs.takeWhile fun c => !stop c && isPlain c)],
                  cs.dropWhile fun c => !stop c && isPlain c)
            match first with
            | none => none
            | some (parts, rest) =>
                (parts? fuel stop rest).map fun (more, rest) => (parts ++ more, rest)

/-- Reads parts in double quotes, after the opening quote. -/
def quoted? (fuel : Nat) (cs : List Char) : Option (Word × List Char) :=
  match fuel with
  | 0 => none
  | fuel + 1 =>
      match cs with
      | [] => none
      | '"' :: rest => some ([], rest)
      | '\\' :: '\n' :: rest => quoted? fuel rest
      | '\\' :: c :: rest =>
          let kept := if "$\x60\"\\".toList.contains c then [c] else ['\\', c]
          (quoted? fuel rest).map fun (parts, rest) => (.text true kept :: parts, rest)
      | c :: rest =>
          if c = '$' ∨ c = '\x60' then
            match expansion? fuel true c rest with
            | none => none
            | some (part, rest) =>
                (quoted? fuel rest).map fun (parts, rest) => (part :: parts, rest)
          else
            (quoted? fuel rest).map fun (parts, rest) => (.text true [c] :: parts, rest)

/-- Reads what is put in for a dollar sign or a backquote, after that sign. -/
def expansion? (fuel : Nat) (quoted : Bool) (sign : Char) (cs : List Char) :
    Option (Part × List Char) :=
  match fuel with
  | 0 => none
  | fuel + 1 =>
      if sign = '\x60' then
        match script? fuel (cs.takeWhile (· ≠ '\x60')), cs.dropWhile (· ≠ '\x60') with
        | some (script, []), _ :: rest => some (.output quoted script, rest)
        | _, _ => none
      else
        match cs with
        | '(' :: '(' :: _ => none
        | '(' :: rest =>
            match script? fuel rest with
            | some (script, ')' :: rest) => some (.output quoted script, rest)
            | _ => none
        | '\x7b' :: rest => braced? fuel quoted rest
        | c :: rest =>
            if isSpecial c then
              some (.parameter quoted (String.ofList [c]) .value, rest)
            else if isNameChar c then
              some (.parameter quoted (String.ofList (cs.takeWhile isNameChar)) .value,
                cs.dropWhile isNameChar)
            else some (.text quoted ['$'], cs)
        | [] => some (.text quoted ['$'], [])

/-- Reads a parameter in braces, after the opening brace. -/
def braced? (fuel : Nat) (quoted : Bool) (cs : List Char) : Option (Part × List Char) :=
  match fuel with
  | 0 => none
  | fuel + 1 =>
      match cs with
      | '#' :: c :: rest =>
          if isNameChar c then
            match (c :: rest).dropWhile isNameChar with
            | '\x7d' :: after =>
                some (.parameter quoted (String.ofList ((c :: rest).takeWhile isNameChar)) .size,
                  after)
            | _ => none
          else if c = '\x7d' then some (.parameter quoted "#" .value, rest)
          else none
      | c :: rest =>
          let name := if isNameChar c then cs.takeWhile isNameChar else [c]
          let after := if isNameChar c then cs.dropWhile isNameChar else rest
          if isNameChar c || isSpecial c then
            match after with
            | '\x7d' :: rest => some (.parameter quoted (String.ofList name) .value, rest)
            | ':' :: '-' :: rest =>
                match parts? fuel (· = '\x7d') rest with
                | some (word, '\x7d' :: rest) =>
                    some (.parameter quoted (String.ofList name) (.orElse word), rest)
                | _ => none
            | signs =>
                match trimming? signs with
                | none => none
                | some (how, rest) =>
                    match parts? fuel (· = '\x7d') rest with
                    | some (pattern, '\x7d' :: rest) =>
                        some (.parameter quoted (String.ofList name) (.trimmed how pattern), rest)
                    | _ => none
          else none
      | [] => none

/-- Reads the words and redirections of a command. -/
def items? (fuel : Nat) (cs : List Char) :
    Option ((List Word × List (Redirection × Word)) × List Char) :=
  match fuel with
  | 0 => none
  | fuel + 1 =>
      let cs := skipBlanks cs
      if isRedirection cs then
        match redirection? cs with
        | none => none
        | some (kind, rest) =>
            match parts? fuel isMeta (skipBlanks rest) with
            | none | some ([], _) => none
            | some (target, rest) =>
                (items? fuel rest).map fun ((words, redirections), rest) =>
                  ((words, (kind, target) :: redirections), rest)
      else if cs.head?.all isMeta then some (([], []), cs)
      else
        match parts? fuel isMeta cs with
        | none => none
        | some (word, rest) =>
            (items? fuel rest).map fun ((words, redirections), rest) =>
              ((word :: words, redirections), rest)

/-- Reads the rest of a condition after `if` or `elif`, up to `fi`. -/
def conditional? (fuel : Nat) (cs : List Char) : Option (Script × List Char) :=
  match fuel with
  | 0 => none
  | fuel + 1 => do
      let (condition, rest) ← script? fuel cs
      let rest ← afterReserved? "then" rest
      let (body, rest) ← script? fuel rest
      match reserved? rest with
      | some "fi" => some (.conditional condition body .skip, rest.drop 2)
      | some "elif" =>
          (conditional? fuel (rest.drop 4)).map fun (otherwise, rest) =>
            (.conditional condition body otherwise, rest)
      | some "else" => do
          let (otherwise, rest) ← script? fuel (rest.drop 4)
          let rest ← afterReserved? "fi" rest
          return (.conditional condition body otherwise, rest)
      | _ => none

/-- Reads the body of a loop from `do` to `done`. -/
def loopBody? (fuel : Nat) (cs : List Char) : Option (Script × List Char) :=
  match fuel with
  | 0 => none
  | fuel + 1 => do
      let rest ← afterReserved? "do" (skipLines cs.length cs)
      let (body, rest) ← script? fuel rest
      return (body, ← afterReserved? "done" rest)

/-- Reads a loop over words after `for`. -/
def each? (fuel : Nat) (cs : List Char) : Option (Script × List Char) :=
  match fuel with
  | 0 => none
  | fuel + 1 => do
      let cs := skipBlanks cs
      let name := cs.takeWhile isNameChar
      if !isName name then none
      let rest := skipLines cs.length (cs.dropWhile isNameChar)
      let (words, rest) ← match afterReserved? "in" rest with
        | some rest =>
            match items? fuel rest with
            | some ((words, []), ';' :: rest) | some ((words, []), '\n' :: rest) =>
                some (words, rest)
            | _ => none
        | none =>
            some ([[.parameter true "@" .value]], match rest with
              | ';' :: rest => rest
              | rest => rest)
      let (body, rest) ← loopBody? fuel rest
      return (.each (String.ofList name) words body, rest)

/-- Reads the patterns of one case up to the parenthesis after them. -/
def patterns? (fuel : Nat) (cs : List Char) : Option (List Word × List Char) :=
  match fuel with
  | 0 => none
  | fuel + 1 =>
      match parts? fuel isMeta (skipBlanks cs) with
      | none | some ([], _) => none
      | some (pattern, rest) =>
          match skipBlanks rest with
          | '|' :: rest =>
              (patterns? fuel rest).map fun (patterns, rest) => (pattern :: patterns, rest)
          | ')' :: rest => some ([pattern], rest)
          | _ => none

/-- Reads the cases of a choice up to `esac`. -/
def cases? (fuel : Nat) (cs : List Char) :
    Option (List (List Word × Script) × List Char) :=
  match fuel with
  | 0 => none
  | fuel + 1 =>
      let cs := skipLines cs.length cs
      match afterReserved? "esac" cs with
      | some rest => some ([], rest)
      | none => do
          let cs := match cs with
            | '(' :: rest => rest
            | cs => cs
          let (patterns, rest) ← patterns? fuel cs
          let (body, rest) ← script? fuel rest
          let rest := match rest with
            | ';' :: ';' :: rest => rest
            | rest => rest
          (cases? fuel rest).map fun (cases, rest) => ((patterns, body) :: cases, rest)

/-- Reads one command. -/
def command? (fuel : Nat) (cs : List Char) : Option (Script × List Char) :=
  match fuel with
  | 0 => none
  | fuel + 1 =>
      let cs := skipBlanks cs
      let compound : Option (Option (Script × List Char)) :=
        match cs with
        | '(' :: rest =>
            some (match script? fuel rest with
              | some (body, ')' :: rest) => some (.subshell body, rest)
              | _ => none)
        | cs =>
            match reserved? cs with
            | some "\x7b" =>
                some do
                  let (body, rest) ← script? fuel (cs.drop 1)
                  return (body, ← afterReserved? "\x7d" rest)
            | some "if" => some (conditional? fuel (cs.drop 2))
            | some "for" => some (each? fuel (cs.drop 3))
            | some "while" | some "until" =>
                some do
                  let (condition, rest) ← script? fuel (cs.drop 5)
                  let (body, rest) ← loopBody? fuel rest
                  return (.loop (cs.head? == some 'u') condition body, rest)
            | some "case" =>
                some do
                  let (subject, rest) ← parts? fuel isMeta (skipBlanks (cs.drop 4))
                  let rest ← afterReserved? "in" (skipLines rest.length rest)
                  let (cases, rest) ← cases? fuel rest
                  return (.choice subject cases, rest)
            | some _ => some none
            | none => none
      match compound with
      | some none => none
      | some (some (body, rest)) =>
          match items? fuel rest with
          | some (([], redirections), rest) => some (body.withRedirections redirections, rest)
          | _ => none
      | none =>
          match items? fuel cs with
          | none | some (([], []), _) => none
          | some ((words, redirections), rest) =>
              some ((ofWords words).withRedirections redirections, rest)

/-- Reads commands that are joined by `|`. -/
def pipeline? (fuel : Nat) (cs : List Char) : Option (Script × List Char) :=
  match fuel with
  | 0 => none
  | fuel + 1 =>
      match afterReserved? "!" (skipBlanks cs) with
      | some rest => (pipeline? fuel rest).map fun (body, rest) => (.negated body, rest)
      | none =>
          match command? fuel cs with
          | none => none
          | some (first, rest) =>
              match skipBlanks rest with
              | '|' :: '|' :: rest => some (first, '|' :: '|' :: rest)
              | '|' :: rest =>
                  (pipeline? fuel (skipLines rest.length rest)).map fun (second, rest) =>
                    (.pipe first second, rest)
              | rest => some (first, rest)

/-- Reads what is joined to a script by `&&` and `||`. -/
def joined? (fuel : Nat) (first : Script) (cs : List Char) : Option (Script × List Char) :=
  match fuel with
  | 0 => none
  | fuel + 1 =>
      match cs with
      | '&' :: '&' :: rest =>
          match pipeline? fuel (skipLines rest.length rest) with
          | none => none
          | some (second, rest) => joined? fuel (.both first second) rest
      | '|' :: '|' :: rest =>
          match pipeline? fuel (skipLines rest.length rest) with
          | none => none
          | some (second, rest) => joined? fuel (.either first second) rest
      | rest => some (first, rest)

/-- Reads a script up to where no command begins. -/
def script? (fuel : Nat) (cs : List Char) : Option (Script × List Char) :=
  match fuel with
  | 0 => none
  | fuel + 1 =>
      let cs := skipLines cs.length cs
      if endsScript cs then some (.skip, cs)
      else
        match pipeline? fuel cs with
        | none => none
        | some (first, rest) =>
            match joined? fuel first rest with
            | none => none
            | some (first, rest) =>
                match skipBlanks rest with
                | ';' :: ';' :: rest => some (first, ';' :: ';' :: rest)
                | ';' :: rest | '\n' :: rest =>
                    (script? fuel rest).map fun (second, rest) => (.sequence first second, rest)
                | rest => if endsScript rest then some (first, rest) else none

end

/-- Reads a script. Between two characters the descent goes down less than sixteen levels. -/
def Script.read? (text : String) : Option Script :=
  let cs := text.toList
  match script? (16 * cs.length + 16) cs with
  | some (script, []) => some script
  | _ => none

end CallMigration.Shell
