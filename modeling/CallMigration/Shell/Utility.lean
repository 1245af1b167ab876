import CallMigration.Shell.Condition
import CallMigration.Shell.Grep

/-!
# Programs

The programs that scripts can run besides the shell itself. Each one sees the files, its input and
its arguments.
-/

namespace CallMigration.Shell.Utility

/-- The name that is left of a path without its directories, as `basename` has it. -/
def baseName (path : String) : String :=
  match (path.toList.reverse.dropWhile (· = '/')).takeWhile (· ≠ '/') with
  | [] => if path = "" then "" else "/"
  | name => String.ofList name.reverse

/-- The directory that is left of a path without its name, as `dirname` has it. -/
def directoryName (path : String) : String :=
  let trimmed := path.toList.reverse.dropWhile (· = '/')
  match trimmed.dropWhile (· ≠ '/') with
  | [] => if trimmed.isEmpty && path != "" then "/" else "."
  | above =>
      match above.dropWhile (· = '/') with
      | [] => "/"
      | directory => String.ofList directory.reverse

/-- The name without an ending, unless it is nothing but that ending. -/
def withoutEnding (name ending : String) : String :=
  if name != ending && ending.toList.isSuffixOf name.toList then
    String.ofList (name.toList.take (name.length - ending.length))
  else name

/-- How many milliseconds a number with an optional unit stands for. -/
def duration? (word : String) : Option Nat := do
  let cs := word.toList
  let (cs, scale) := match cs.getLast? with
    | some 's' => (cs.dropLast, 1)
    | some 'm' => (cs.dropLast, 60)
    | some 'h' => (cs.dropLast, 3600)
    | some 'd' => (cs.dropLast, 86400)
    | _ => (cs, 1)
  let whole := cs.takeWhile Char.isDigit
  let fraction ← match cs.dropWhile Char.isDigit with
    | [] => some []
    | '.' :: digits => if digits.all Char.isDigit then some digits else none
    | _ => none
  if whole.isEmpty && fraction.isEmpty then none
  else
    let digits := (whole ++ fraction).foldl (fun n c => n * 10 + (c.toNat - 48)) 0
    some (digits * scale * 1000 / Nat.pow 10 fraction.length)

/-- The texts of files, or the input where none is named or `-` is; `none` for a file that cannot be
read. -/
def inputs (files : Files) (input : String) (names : List String) : List (Option String) :=
  (if names.isEmpty then ["-"] else names).map fun name =>
    if name = "-" then some input else files.read? name

/-- The text that an escape of `printf` stands for. -/
def unescape : List Char → List Char
  | '\\' :: 'n' :: rest => '\n' :: unescape rest
  | '\\' :: 't' :: rest => '\t' :: unescape rest
  | '\\' :: 'r' :: rest => '\r' :: unescape rest
  | '\\' :: '\\' :: rest => '\\' :: unescape rest
  | c :: rest => c :: unescape rest
  | [] => []

/-- One round through a format of `printf`: the text, and the arguments that are left. -/
def formatOnce : List Char → List String → List Char × List String
  | '%' :: '%' :: rest, words =>
      let (text, words) := formatOnce rest words
      ('%' :: text, words)
  | '%' :: _ :: rest, words =>
      let (text, left) := formatOnce rest words.tail
      ((words.headD "").toList ++ text, left)
  | c :: rest, words =>
      let (text, words) := formatOnce rest words
      (c :: text, words)
  | [], words => ([], words)

/-- The format of `printf` used until no argument is left. -/
def formatAll (form : List Char) : Nat → List String → List Char
  | 0, _ => []
  | rounds + 1, words =>
      let (text, left) := formatOnce form words
      if left.isEmpty || left.length = words.length then text
      else text ++ formatAll form rounds left

/-- Reads a count of lines as `head` and `tail` take it: the count and the names of files. -/
def lineCount? : List String → Option (Nat × List String)
  | "-n" :: n :: names => n.toNat?.map fun n => (n, names)
  | word :: names =>
      match word.toList with
      | '-' :: 'n' :: digits => (String.ofList digits).toNat?.map fun n => (n, names)
      | '-' :: c :: digits => (String.ofList (c :: digits)).toNat?.map fun n => (n, names)
      | _ => some (10, word :: names)
  | [] => some (10, [])

/-- How a program ends that picks lines of its inputs. -/
def pickLines (files : Files) (input : String) (words : List String)
    (pick : Nat → List (List Char) → List (List Char)) : Ending :=
  match lineCount? words with
  | none => ⟨1, "", 0⟩
  | some (n, names) =>
      let texts := inputs files input names
      ⟨if texts.all Option.isSome then 0 else 1,
        String.join ((texts.filterMap id).map fun text => unlines (pick n (linesOf text))), 0⟩

/-- The words of a text. -/
def wordsOf (text : String) : List String :=
  (text.toList.splitBy fun a b => a.isWhitespace == b.isWhitespace).filterMap fun cs =>
    if cs.any Char.isWhitespace then none else some (String.ofList cs)

/-- How `wc` ends for one option. -/
def count (files : Files) (input : String) (measure : String → Nat) (names : List String) : Ending :=
  match names with
  | [] => ⟨0, toString (measure input) ++ "\n", 0⟩
  | names =>
      let texts := names.map fun name => (name, files.read? name)
      ⟨if texts.all (·.2.isSome) then 0 else 1,
        String.join (texts.filterMap fun (name, text) =>
          text.map fun text => toString (measure text) ++ " " ++ name ++ "\n"), 0⟩

/-- How a program ends that compares two files: with status one if they differ, with status two if
one cannot be read. -/
def compare (files : Files) (first second : String) : Ending :=
  match files.read? first, files.read? second with
  | some a, some b => .ofBool (a == b)
  | _, _ => ⟨2, "", 0⟩

/-- How a program ends that lists names: those of files as they are, those of directories with what
they hold; with status two if there is nothing of some name. -/
def list (files : Files) (names : List String) : Ending :=
  let isThere (name : String) : Bool := files.hasDirectory name || (files.read? name).isSome
  let (plain, directories) := (names.filter isThere).partition fun name =>
    (files.read? name).isSome
  ⟨if names.all isThere then 0 else 2,
    String.join ((plain ++ directories.flatMap files.namesIn).map (· ++ "\n")), 0⟩

/-- Whether a program is only asked about itself. -/
def isInquiry (words : List String) : Bool := words == ["--help"] || words == ["--version"]

/-- How a program ends, if there is one of that name. -/
def run? (files : Files) (input name : String) (words : List String) : Option Ending :=
  match name, words with
  | "true", _ => some .success
  | "false", _ => some (.ofBool false)
  | "test", words => some (Condition.ending files words)
  | "[", words =>
      some (if words.getLast? = some "]" then Condition.ending files words.dropLast
        else ⟨2, "", 0⟩)
  | "echo", "-n" :: words => some ⟨0, " ".intercalate words, 0⟩
  | "echo", words => some ⟨0, " ".intercalate words ++ "\n", 0⟩
  | "printf", form :: words =>
      some ⟨0, String.ofList (formatAll (unescape form.toList) (words.length + 1) words), 0⟩
  | "cat", names =>
      let texts := inputs files input names
      some ⟨if texts.all Option.isSome then 0 else 1, String.join (texts.filterMap id), 0⟩
  | "basename", [path] => some ⟨0, baseName path ++ "\n", 0⟩
  | "basename", [path, ending] => some ⟨0, withoutEnding (baseName path) ending ++ "\n", 0⟩
  | "dirname", path :: paths =>
      some ⟨0, String.join ((path :: paths).map (directoryName · ++ "\n")), 0⟩
  | "grep", words => some (Grep.ending files input words)
  | "egrep", words => some (Grep.ending files input ("-E" :: words))
  | "fgrep", words => some (Grep.ending files input ("-F" :: words))
  | "head", words => some (pickLines files input words fun n lines => lines.take n)
  | "tail", words =>
      some (pickLines files input words fun n lines => lines.drop (lines.length - n))
  | "cmp", ["-s", first, second] | "cmp", [first, second] => some (compare files first second)
  | "diff", ["-q", first, second] | "diff", [first, second] => some (compare files first second)
  | "ls", names => some (list files (if names.isEmpty then ["."] else names))
  | "wc", "-l" :: names => some (count files input (fun text => text.toList.count '\n') names)
  | "wc", "-c" :: names => some (count files input String.utf8ByteSize names)
  | "wc", "-m" :: names => some (count files input String.length names)
  | "wc", "-w" :: names => some (count files input (fun text => (wordsOf text).length) names)
  | "sleep", word :: words =>
      some <| if isInquiry (word :: words) then .success
        else ((word :: words).mapM duration?).elim ⟨1, "", 0⟩ fun times => ⟨0, "", times.foldl (· + ·) 0⟩
  | "printf", [] | "basename", _ | "dirname", _ | "sleep", _ | "wc", _ => some ⟨1, "", 0⟩
  | _, _ => none

end CallMigration.Shell.Utility
