import CallMigration.Toml.DateTime
import CallMigration.Toml.Number
import CallMigration.Toml.Quoted

/-!
# Reading TOML

A document is a sequence of lines, each of which opens a table, assigns a value in the table opened
last, or is empty; comments may end any of them. Line breaks count for nothing between the parts of
arrays and tables in brackets. Neither these nor the names of a key go deeper than a fixed limit.
-/

namespace CallMigration.Toml

/-- The text without the blanks at its beginning. -/
def skipSpaces (cs : List Char) : List Char := cs.dropWhile isSpace

/-- The text without the blanks, line breaks and comments at its beginning. -/
def skipGaps : Nat → List Char → List Char
  | 0, cs => cs
  | fuel + 1, cs =>
      match skipSpaces cs with
      | '#' :: rest => skipGaps fuel (rest.dropWhile isPlain)
      | '\n' :: rest => skipGaps fuel rest
      | '\r' :: '\n' :: rest => skipGaps fuel rest
      | rest => rest

/-- The text without the gaps at its beginning. -/
def afterGaps (cs : List Char) : List Char := skipGaps (cs.length + 1) cs

/-- Whether a character may stand in a key without quotes. -/
def isBareKey (c : Char) : Bool := c.isAlphanum || c == '_' || c == '-'

/-- Reads one name of a key. -/
def keyName? (cs : List Char) : Option (String × List Char) :=
  match cs.takeWhile isBareKey with
  | [] => lineText? cs
  | name => some (String.ofList name, cs.dropWhile isBareKey)

/-- How many arrays and tables in brackets may stand within each other, and how many names a key may
have. -/
def depthLimit : Nat := 80

/-- Reads names with dots and blanks between them, of which there are at most as many as given. -/
def names? : Nat → List Char → Option (List String × List Char)
  | 0, _ => none
  | count + 1, cs =>
      match keyName? cs with
      | none => none
      | some (name, rest) =>
          match skipSpaces rest with
          | '.' :: rest =>
              (names? count (skipSpaces rest)).map fun (names, rest) => (name :: names, rest)
          | rest => some ([name], rest)

/-- Reads a key and the blanks after it. -/
def key? (cs : List Char) : Option (List String × List Char) := names? depthLimit cs

/-- Whether a character may stand in a word that is a value: it has no meaning of its own. -/
def isWordChar (c : Char) : Bool := !" \t\r\n=,[]\x7b\x7d#'\"".toList.contains c

/-- The value that a word spells. -/
def word? (word : List Char) : Option Toml :=
  if word = "true".toList then some (.boolean true)
  else if word = "false".toList then some (.boolean false)
  else if isDateTime word then some .dateTime
  else if isFloat word then some .float
  else (integer? word).map .integer

/-- Reads a value that is not in quotes or brackets: a date with a time after one blank, or a
word. -/
def bare? (cs : List Char) : Option (Toml × List Char) :=
  let word := cs.takeWhile isWordChar
  let rest := cs.dropWhile isWordChar
  let time := (rest.drop 1).takeWhile isWordChar
  if rest.head? = some ' ' ∧ isDateTime (word ++ ' ' :: time) then
    some (.dateTime, (rest.drop 1).dropWhile isWordChar)
  else (word? word).map fun value => (value, rest)

mutual

/-- Reads a value in which as many brackets as `depth` may be open at once. -/
def value? (fuel depth : Nat) (cs : List Char) : Option (Toml × List Char) :=
  match fuel with
  | 0 => none
  | fuel + 1 =>
      match cs, depth with
      | '[' :: rest, depth + 1 =>
          (items? fuel depth (afterGaps rest)).map fun (items, rest) => (.array items, rest)
      | '\x7b' :: rest, depth + 1 =>
          (members? fuel depth [] (afterGaps rest)).map fun (entries, rest) =>
            (.table .inline entries, rest)
      | '"' :: _, _ | '\'' :: _, _ => (text? cs).map fun (s, rest) => (.text s, rest)
      | _, _ => bare? cs

/-- Reads the items of an array up to its closing bracket. -/
def items? (fuel depth : Nat) (cs : List Char) : Option (List Toml × List Char) :=
  match fuel with
  | 0 => none
  | fuel + 1 =>
      match cs with
      | ']' :: rest => some ([], rest)
      | _ =>
          match value? fuel depth cs with
          | none => none
          | some (item, rest) =>
              match afterGaps rest with
              | ',' :: rest =>
                  (items? fuel depth (afterGaps rest)).map fun (items, rest) => (item :: items, rest)
              | ']' :: rest => some ([item], rest)
              | _ => none

/-- Reads the members of a table up to its closing brace; `entries` are those read before. -/
def members? (fuel depth : Nat) (entries : Entries) (cs : List Char) :
    Option (Entries × List Char) :=
  match fuel with
  | 0 => none
  | fuel + 1 =>
      match cs with
      | '\x7d' :: rest => some (entries, rest)
      | _ =>
          match assignment? fuel depth entries cs with
          | none => none
          | some (entries, rest) =>
              match afterGaps rest with
              | ',' :: rest => members? fuel depth entries (afterGaps rest)
              | '\x7d' :: rest => some (entries, rest)
              | _ => none

/-- Reads a key with its value and puts it among the entries. -/
def assignment? (fuel depth : Nat) (entries : Entries) (cs : List Char) :
    Option (Entries × List Char) :=
  match fuel with
  | 0 => none
  | fuel + 1 =>
      match key? cs with
      | none => none
      | some (names, rest) =>
          match afterGaps rest with
          | '=' :: rest =>
              match names.getLast?, value? fuel depth (afterGaps rest) with
              | some name, some (value, rest) =>
                  (entries.assign? name value names.dropLast).map fun entries => (entries, rest)
              | _, _ => none
          | _ => none

end

/-- Reads the header of a table after its opening bracket: the names that lead to the table. -/
def header? (cs : List Char) : Option (List String × List Char) :=
  match key? (skipSpaces cs) with
  | some (names, ']' :: rest) => some (names, rest)
  | _ => none

/-- The text after the end of a line, before which blanks and a comment may stand. -/
def lineEnd? (cs : List Char) : Option (List Char) :=
  let rest := match skipSpaces cs with
    | '#' :: rest => rest.dropWhile isPlain
    | rest => rest
  if rest.isEmpty then some [] else lineBreak? rest

/-- Reads the lines of a document: `root` are the entries so far, and `current` leads to the table
opened last. -/
def lines? : Nat → Entries → List String → List Char → Option Entries
  | 0, _, _, _ => none
  | fuel + 1, root, current, cs =>
      match afterGaps cs with
      | [] => some root
      | '[' :: rest => do
          let (names, rest) ← header? rest
          let root ← root.openTable? names
          lines? fuel root names (← lineEnd? rest)
      | cs => do
          let (names, rest) ← key? cs
          let '=' :: rest := rest | none
          let (value, rest) ← value? (2 * cs.length + 2) depthLimit (skipSpaces rest)
          let root ← root.within? (fun entries => do
            entries.assign? (← names.getLast?) value names.dropLast) current
          lines? fuel root current (← lineEnd? rest)

/-- Reads a document. A mark of byte order at its beginning counts for nothing. -/
def read? (document : String) : Option Entries :=
  let cs := match document.toList with
    | '\uFEFF' :: rest => rest
    | cs => cs
  lines? (cs.length + 1) [] [] cs

end CallMigration.Toml
