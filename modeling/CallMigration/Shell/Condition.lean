import CallMigration.Shell.Files

/-!
# Conditions

What the program `test` looks at: texts, numbers and files, joined by `-a`, `-o`, `!` and
parentheses. How a few words are to be understood depends on their number first.
-/

namespace CallMigration.Shell.Condition

/-- The whole number that a word spells. -/
def integer? (word : String) : Option Int :=
  match Text.trim word.toList with
  | '+' :: digits => (String.ofList digits).toNat?.map Int.ofNat
  | digits => (String.ofList digits).toInt?

/-- A comparison of numbers by the name of its operator. -/
def compareNumbers? : String → Option (Int → Int → Bool)
  | "-eq" => some (· == ·)
  | "-ne" => some (· != ·)
  | "-lt" => some (· < ·)
  | "-le" => some (· ≤ ·)
  | "-gt" => some (· > ·)
  | "-ge" => some (· ≥ ·)
  | _ => none

/-- The answer of an operator on one word, if it is one. -/
def unary? (files : Files) (operator word : String) : Option Bool :=
  match operator with
  | "-n" => some (word != "")
  | "-z" => some (word == "")
  | "-e" => some ((files.read? word).isSome || files.hasDirectory word)
  | "-f" => some (word != Files.nullDevice && (files.read? word).isSome)
  | "-d" => some (files.hasDirectory word)
  | "-r" | "-w" => some ((files.read? word).isSome || files.hasDirectory word)
  | "-s" => some ((files.read? word).any (· != "") || files.hasDirectory word)
  | "-x" => some (files.hasDirectory word)
  | "-h" | "-L" | "-p" | "-S" | "-b" | "-t" => some false
  | "-c" => some (word == Files.nullDevice)
  | _ => none

/-- Whether a word is an operator between two words. -/
def isBinary (operator : String) : Bool :=
  ["=", "==", "!=", "<", ">"].contains operator || (compareNumbers? operator).isSome

/-- The answer of an operator between two words; `none` if it does not apply to them. -/
def binary? (left operator right : String) : Option Bool :=
  match operator with
  | "=" | "==" => some (left == right)
  | "!=" => some (left != right)
  | "<" => some (left < right)
  | ">" => some (right < left)
  | operator => do return (← compareNumbers? operator) (← integer? left) (← integer? right)

mutual

/-- Reads alternatives. -/
def disjunction? (files : Files) (fuel : Nat) (words : List String) :
    Option (Bool × List String) :=
  match fuel with
  | 0 => none
  | fuel + 1 =>
      match conjunction? files fuel words with
      | some (first, "-o" :: rest) =>
          (disjunction? files fuel rest).map fun (second, rest) => (first || second, rest)
      | other => other

/-- Reads conditions that hold together. -/
def conjunction? (files : Files) (fuel : Nat) (words : List String) :
    Option (Bool × List String) :=
  match fuel with
  | 0 => none
  | fuel + 1 =>
      match primary? files fuel words with
      | some (first, "-a" :: rest) =>
          (conjunction? files fuel rest).map fun (second, rest) => (first && second, rest)
      | other => other

/-- Reads one condition. -/
def primary? (files : Files) (fuel : Nat) (words : List String) : Option (Bool × List String) :=
  match fuel with
  | 0 => none
  | fuel + 1 =>
      match words with
      | [] => none
      | left :: operator :: right :: rest =>
          if isBinary operator then (binary? left operator right).map fun b => (b, rest)
          else if left = "!" then
            (primary? files fuel (operator :: right :: rest)).map fun (b, rest) => (!b, rest)
          else if left = "(" then
            match disjunction? files fuel (operator :: right :: rest) with
            | some (b, ")" :: rest) => some (b, rest)
            | _ => none
          else
            match unary? files left operator with
            | some b => some (b, right :: rest)
            | none => some (left != "", operator :: right :: rest)
      | ["!", word] => some (word == "", [])
      | [operator, word] =>
          match unary? files operator word with
          | some b => some (b, [])
          | none => some (operator != "", [word])
      | [word] => some (word != "", [])

end

/-- The answer for a list of words; `none` if they make no condition. -/
def answer? (files : Files) (words : List String) : Option Bool :=
  match words with
  | [] => some false
  | words =>
      match disjunction? files (4 * words.length + 4) words with
      | some (b, []) => some b
      | _ => none

/-- How `test` ends for a list of words. -/
def ending (files : Files) (words : List String) : Ending :=
  match answer? files words with
  | some b => .ofBool b
  | none => ⟨2, "", 0⟩

end CallMigration.Shell.Condition
