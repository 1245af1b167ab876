import CallMigration.Pattern.Regular
import CallMigration.Shell.Files

/-!
# Searching lines

What the program `grep` does: it looks for lines in which a pattern occurs, and prints or counts
them or only tells whether there are any.
-/

namespace CallMigration.Shell.Grep

/-- What is searched for, and how. -/
structure Search where
  patterns : List String := []
  extended : Bool := false
  /-- Whether patterns stand for themselves. -/
  fixed : Bool := false
  ignoreCase : Bool := false
  inverted : Bool := false
  wholeLine : Bool := false
  wholeWord : Bool := false
  quiet : Bool := false
  count : Bool := false
  numbered : Bool := false
  names : Bool := false
  onlyNames : Bool := false
  /-- Whether the names of files without such lines are printed instead. -/
  otherNames : Bool := false
  /-- Whether only the parts of lines in which a pattern occurs are printed. -/
  onlyParts : Bool := false
  /-- Whether files that hold null characters are searched like any other. -/
  anyText : Bool := false
  /-- After how many lines a search ends. -/
  most : Option Nat := none
  files : List String := []
deriving Inhabited

/-- The search with an option of one letter, if there is such an option. -/
def Search.withOption? (s : Search) : Char → Option Search
  | 'q' => some { s with quiet := true }
  | 's' => some s
  | 'v' => some { s with inverted := true }
  | 'i' | 'y' => some { s with ignoreCase := true }
  | 'x' => some { s with wholeLine := true }
  | 'w' => some { s with wholeWord := true }
  | 'c' => some { s with count := true }
  | 'n' => some { s with numbered := true }
  | 'l' => some { s with onlyNames := true }
  | 'L' => some { s with otherNames := true }
  | 'o' => some { s with onlyParts := true }
  | 'h' => some { s with names := false }
  | 'H' => some { s with names := true }
  | 'a' => some { s with anyText := true }
  | 'b' | 'r' | 'R' | 'I' | 'T' | 'U' => some s
  | 'E' => some { s with extended := true, fixed := false }
  | 'G' => some { s with extended := false, fixed := false }
  | 'F' => some { s with fixed := true }
  | _ => none

/-- The search with options written together. -/
def Search.withOptions? (s : Search) : List Char → Option Search
  | [] => some s
  | c :: cs => (s.withOption? c).bind (·.withOptions? cs)

/-- Whether an option of one letter takes a value. -/
def takesValue (c : Char) : Bool := ['e', 'm', 'A', 'B', 'C'].contains c

/-- The search with an option of one letter and its value, if the option takes such a value. -/
def Search.withValue? (s : Search) (c : Char) (value : String) : Option Search :=
  if c = 'e' then some { s with patterns := s.patterns ++ [value] }
  else value.toNat?.map fun n => if c = 'm' then { s with most := some n } else s

/-- The letters of options that can be spelled out. -/
def longOptions : List (String × Char) :=
  [("--quiet", 'q'), ("--silent", 'q'), ("--no-messages", 's'), ("--invert-match", 'v'),
   ("--ignore-case", 'i'), ("--line-regexp", 'x'), ("--word-regexp", 'w'), ("--count", 'c'),
   ("--line-number", 'n'), ("--files-with-matches", 'l'), ("--files-without-match", 'L'),
   ("--only-matching", 'o'), ("--with-filename", 'H'), ("--no-filename", 'h'), ("--text", 'a'),
   ("--recursive", 'r'), ("--extended-regexp", 'E'), ("--basic-regexp", 'G'),
   ("--fixed-strings", 'F'), ("--regexp", 'e'), ("--max-count", 'm')]

/-- The search with an option spelled out, with its value after a sign of equality, if there is such
an option. -/
def Search.withLongOption? (s : Search) (word : List Char) : Option Search :=
  let name := word.takeWhile (· ≠ '=')
  (longOptions.lookup (String.ofList name)).bind fun c =>
    if takesValue c then s.withValue? c (String.ofList (word.drop (name.length + 1)))
    else s.withOption? c

/-- Reads the arguments; `operands` are those read so far that are no options, last one first. -/
def arguments? (s : Search) (operands : List String) : List String → Option (Search × List String)
  | [] => some (s, operands.reverse)
  | word :: rest =>
      match word.toList with
      | ['-', '-'] => some (s, operands.reverse ++ rest)
      | '-' :: '-' :: _ => (s.withLongOption? word.toList).bind fun s => arguments? s operands rest
      | '-' :: c :: cs =>
          (s.withOptions? ((c :: cs).takeWhile fun c => !takesValue c)).bind fun s =>
            match (c :: cs).dropWhile fun c => !takesValue c with
            | [] => arguments? s operands rest
            | [c] =>
                match rest with
                | [] => none
                | value :: rest => (s.withValue? c value).bind fun s => arguments? s operands rest
            | c :: value =>
                (s.withValue? c (String.ofList value)).bind fun s => arguments? s operands rest
      | _ => arguments? s (word :: operands) rest

/-- The search that arguments ask for. -/
def ofArguments? (words : List String) : Option Search := do
  let (s, operands) ← arguments? {} [] words
  match s.patterns, operands with
  | [], [] => none
  | [], pattern :: files => some { s with patterns := [pattern], files := files }
  | _, files => some { s with files := files }

/-- The bytes of a text as characters, which are what patterns are about. -/
def byteChars (cs : List Char) : List Char :=
  (String.ofList cs).toUTF8.toList.map fun b => Char.ofNat b.toNat

/-- The patterns of a search; each line of a pattern is one of its own. -/
def Search.compiled? (s : Search) : Option (List Pattern) := do
  let patterns ← (s.patterns.flatMap fun p => Text.splitOn '\n' p.toList).mapM fun cs =>
    if s.fixed then some (Pattern.literal (byteChars cs))
    else Pattern.ofRegular? s.extended (byteChars cs)
  return if s.ignoreCase then patterns.map Pattern.ignoringCase else patterns

/-- Where occurrences of the patterns end that begin at a place of a line. -/
def Search.endsAt (s : Search) (patterns : List Pattern) (line : Array Char) (place : Nat) :
    List Nat :=
  let stops := patterns.flatMap fun p => p.ends line place
  if s.wholeLine then if place = 0 then stops.filter (· = line.size) else []
  else if s.wholeWord then
    if Pattern.isWordBefore line place then []
    else stops.filter fun stop => !Pattern.isWordAt line stop
  else stops

/-- Whether a line is one of those searched for. -/
def Search.selects (s : Search) (patterns : List Pattern) (line : List Char) : Bool :=
  let line := (byteChars line).toArray
  ((List.range (line.size + 1)).any fun place => !(s.endsAt patterns line place).isEmpty)
    != s.inverted

/-- The occurrences of the patterns in a line from a place on, each the longest where it begins and
none of them empty; `fuel` bounds the places that are left. -/
def Search.partsFrom (s : Search) (patterns : List Pattern) (line : Array Char) :
    Nat → Nat → List (Nat × Nat)
  | 0, _ => []
  | fuel + 1, place =>
      let stop := (s.endsAt patterns line place).foldl max place
      if place < stop then (place, stop) :: s.partsFrom patterns line fuel stop
      else s.partsFrom patterns line fuel (place + 1)

/-- The texts of the occurrences of the patterns in a line. -/
def Search.parts (s : Search) (patterns : List Pattern) (line : List Char) : List String :=
  let bytes := (String.ofList line).toUTF8
  (s.partsFrom patterns (byteChars line).toArray (bytes.size + 1) 0).map fun (start, stop) =>
    (String.fromUTF8? (bytes.extract start stop)).getD ""

/-- Whether a text is not printed, as it holds null characters. -/
def Search.conceals (s : Search) (text : String) : Bool :=
  !s.anyText && text.toList.contains '\x00'

/-- The lines of a text with their numbers from zero. In a text that is not printed a null character
ends a line as well. -/
def Search.numberedLines (s : Search) (text : String) : List (List Char × Nat) :=
  (linesOf (if s.conceals text then
    String.ofList (text.toList.map fun c => if c = '\x00' then '\n' else c) else text)).zipIdx

/-- The lines of a text that are searched for. -/
def Search.found (s : Search) (patterns : List Pattern) (text : String) : List (List Char × Nat) :=
  let found := (s.numberedLines text).filter fun (line, _) => s.selects patterns line
  s.most.elim found found.take

/-- What is printed about one line found. -/
def Search.printed (s : Search) (patterns : List Pattern) (line : List Char) : List String :=
  if !s.onlyParts then [String.ofList line]
  else if s.inverted then []
  else s.parts patterns line

/-- What is printed about one file with the numbered lines found in it. -/
def Search.report (s : Search) (patterns : List Pattern) (name text : String)
    (found : List (List Char × Nat)) : String :=
  let label := if s.names || 1 < s.files.length then name ++ ":" else ""
  if s.quiet then ""
  else if s.onlyNames then if found.isEmpty then "" else name ++ "\n"
  else if s.otherNames then if found.isEmpty then name ++ "\n" else ""
  else if s.count then label ++ toString found.length ++ "\n"
  else if s.conceals text then
    if found.isEmpty then "" else "Binary file " ++ name ++ " matches\n"
  else
    String.join (found.flatMap fun (line, i) => (s.printed patterns line).map fun part =>
      label ++ (if s.numbered then toString (i + 1) ++ ":" else "") ++ part ++ "\n")

/-- How a search ends: with success if a line is found, with status two if something is wrong. -/
def ending (files : Files) (input : String) (words : List String) : Ending :=
  match ofArguments? words with
  | none => if words.any ["--help", "--version", "-V"].contains then .success else ⟨2, "", 0⟩
  | some s =>
      match s.compiled? with
      | none => ⟨2, "", 0⟩
      | some patterns =>
          let sources := if s.files.isEmpty then ["-"] else s.files
          let results := sources.map fun name =>
            (if name = "-" then some input else files.read? name).map fun text =>
              (name, text, s.found patterns text)
          let found := results.filterMap id
          let any := found.any fun (_, _, lines) => !lines.isEmpty
          let output := String.join (found.map fun (name, text, lines) =>
            s.report patterns name text lines)
          if any && (s.quiet || results.all Option.isSome) then ⟨0, output, 0⟩
          else if results.all Option.isSome then ⟨1, output, 0⟩
          else ⟨2, output, 0⟩

end CallMigration.Shell.Grep
