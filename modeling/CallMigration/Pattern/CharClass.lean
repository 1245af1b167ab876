import CallMigration.Pattern

/-!
# Bracket expressions

A set of characters in square brackets lists characters, ranges and named classes; a mark after the
opening bracket asks for all other characters. A closing bracket right at the beginning stands for
itself.
-/

namespace CallMigration.CharSet

/-- The ranges of a named class. -/
def namedClass? : String → Option (List (Char × Char))
  | "alpha" => some [('a', 'z'), ('A', 'Z')]
  | "digit" => some [('0', '9')]
  | "alnum" => some [('a', 'z'), ('A', 'Z'), ('0', '9')]
  | "upper" => some [('A', 'Z')]
  | "lower" => some [('a', 'z')]
  | "space" => some [(' ', ' '), ('\t', '\r')]
  | "blank" => some [(' ', ' '), ('\t', '\t')]
  | "punct" => some [('!', '/'), (':', '@'), ('[', '\x60'), ('\x7b', '~')]
  | "xdigit" => some [('0', '9'), ('a', 'f'), ('A', 'F')]
  | _ => none

/-- Reads the items of a set up to its closing bracket. -/
def items? : Nat → List Char → Option (List (Char × Char) × List Char)
  | 0, _ => none
  | _ + 1, [] => none
  | _ + 1, ']' :: rest => some ([], rest)
  | fuel + 1, '[' :: ':' :: rest => do
      let ranges ← namedClass? (String.ofList (rest.takeWhile (· ≠ ':')))
      let ':' :: ']' :: rest := rest.dropWhile (· ≠ ':') | none
      (items? fuel rest).map fun (items, rest) => (ranges ++ items, rest)
  | fuel + 1, low :: '-' :: high :: rest =>
      if high = ']' then some ([(low, low), ('-', '-')], rest)
      else (items? fuel rest).map fun (items, rest) => ((low, high) :: items, rest)
  | fuel + 1, c :: rest => (items? fuel rest).map fun (items, rest) => ((c, c) :: items, rest)

/-- Reads a set after its opening bracket. -/
def read? (cs : List Char) : Option (CharSet × List Char) :=
  let (negated, cs) := match cs with
    | '^' :: rest => (true, rest)
    | '!' :: rest => (true, rest)
    | cs => (false, cs)
  match cs with
  | ']' :: rest =>
      (items? (cs.length + 1) rest).map fun (items, rest) => (⟨negated, (']', ']') :: items⟩, rest)
  | cs => (items? (cs.length + 1) cs).map fun (items, rest) => (⟨negated, items⟩, rest)

end CallMigration.CharSet
