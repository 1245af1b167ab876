import CallMigration.Pattern.CharClass

/-!
# Regular expressions

The two notations for patterns in lines of text. In the basic one groups, intervals and alternatives
take a backslash; in the extended one it is the other way round. A text is cut into tokens, which
mean the same in both notations, and the tokens are read as a pattern.
-/

namespace CallMigration.Pattern

/-- A token of a regular expression. -/
inductive Token where
  | openGroup
  | closeGroup
  | bar
  /-- How often what stands before may be repeated. -/
  | times (least : Nat) (most : Option Nat)
  | atom (p : Pattern)
deriving DecidableEq

/-- The characters that make up words. -/
def wordChars (negated : Bool) : Pattern :=
  .oneOf ⟨negated, [('a', 'z'), ('A', 'Z'), ('0', '9'), ('_', '_')]⟩

/-- The blank characters. -/
def blankChars (negated : Bool) : Pattern := .oneOf ⟨negated, [(' ', ' '), ('\t', '\r')]⟩

/-- The beginning or the end of a word. -/
def wordEdge : Pattern := .either .wordStart .wordStop

/-- What a backslash makes of a letter or sign that has a meaning in both notations. -/
def escaped : Char → Pattern
  | 'w' => wordChars false
  | 'W' => wordChars true
  | 's' => blankChars false
  | 'S' => blankChars true
  | '<' => .wordStart
  | '>' => .wordStop
  | 'b' => wordEdge
  | 'B' => .noWordEdge
  | '\x60' => .start
  | '\'' => .stop
  | c => .char c

/-- The number that a text begins with, if it begins with one. -/
def number? (cs : List Char) : Option Nat := (String.ofList (cs.takeWhile Char.isDigit)).toNat?

/-- Reads the bounds of an interval after its opening brace: one number, or two of which either may
be missing. -/
def interval? (closing cs : List Char) : Option (Token × List Char) := do
  let rest := cs.dropWhile Char.isDigit
  let (least, most, rest) ← match rest with
    | ',' :: rest => some ((number? cs).getD 0, number? rest, rest.dropWhile Char.isDigit)
    | rest => (number? cs).map fun n => (n, some n, rest)
  if closing.isPrefixOf rest && most.all (least ≤ ·) then
    some (.times least most, rest.drop closing.length)
  else none

/-- Whether an alternative begins after the given token. -/
def beginsAfter : Option Token → Bool
  | none | some .openGroup | some .bar => true
  | _ => false

/-- Whether a token describes a place instead of a character. -/
def Token.isPlace (token : Token) : Bool :=
  [.start, .stop, .wordStart, .wordStop, wordEdge, .noWordEdge].any fun p => token == .atom p

/-- Whether there is still nothing that could be repeated after a token; `before` says whether there
is nothing before it. -/
def Token.leavesNothing (token : Token) (before : Bool) : Bool :=
  beginsAfter (some token) || before && token.isPlace

/-- Whether an anchor at the end may stand before the given text in the basic notation. -/
def endsBefore : List Char → Bool
  | [] => true
  | '\\' :: ')' :: _ => true
  | '\\' :: '|' :: _ => true
  | _ => false

/-- Whether a set after its opening bracket looks like a named class that stands outside of a
set. -/
def isLoneClass (cs : List Char) : Bool :=
  let content := cs.takeWhile (· ≠ ']')
  content.head? == some ':' && content.getLast? == some ':' && content.any (· != ':')
    && !content.contains '-'

/-- The sign that has a meaning of its own: in the extended notation without a backslash, in the
basic one with it. -/
def sign? : Char → Option Token
  | '(' => some .openGroup
  | ')' => some .closeGroup
  | '|' => some .bar
  | '+' => some (.times 1 none)
  | '?' => some (.times 0 (some 1))
  | _ => none

/-- Reads the first token of a text, which is not empty; `last` is the token before it, and
`nothing` says whether there is nothing before it that could be repeated. -/
def token? (extended : Bool) (last : Option Token) (nothing : Bool) :
    List Char → Option (Token × List Char)
  | [] => none
  | '\\' :: '\x7b' :: rest =>
      if extended || nothing then some (.atom (.char '\x7b'), rest)
      else interval? ['\\', '\x7d'] rest
  | '\\' :: c :: rest =>
      match sign? c with
      | some (.times least most) =>
          some (if extended || nothing then .atom (.char c) else .times least most, rest)
      | some token => some (if extended then .atom (.char c) else token, rest)
      | none => if '1' ≤ c ∧ c ≤ '9' then none else some (.atom (escaped c), rest)
  | ['\\'] => none
  | '[' :: rest =>
      if isLoneClass rest then none
      else (CharSet.read? rest).map fun (set, rest) => (.atom (.oneOf set), rest)
  | '.' :: rest => some (.atom (.oneOf .all), rest)
  | '*' :: rest =>
      some (if !extended && nothing then .atom (.char '*') else .times 0 none, rest)
  | '^' :: rest =>
      some (.atom (if extended || beginsAfter last then .start else .char '^'), rest)
  | '$' :: rest =>
      some (.atom (if extended || endsBefore rest then .stop else .char '$'), rest)
  | '\x7b' :: rest =>
      some ((if extended then interval? ['\x7d'] rest else none).getD (.atom (.char '\x7b'), rest))
  | c :: rest =>
      match sign? c with
      | some token => some (if extended then token else .atom (.char c), rest)
      | none => some (.atom (.char c), rest)

/-- Cuts a text into tokens; `groups` is how many groups are open. In the extended notation the sign
that closes a group stands for itself where none is open. -/
def tokens? (extended : Bool) :
    Nat → Nat → Option Token → Bool → List Char → Option (List Token)
  | 0, _, _, _, _ => none
  | _ + 1, _, _, _, [] => some []
  | fuel + 1, groups, last, nothing, cs =>
      match token? extended last nothing cs with
      | none => none
      | some (token, rest) =>
          let token := if extended && token == .closeGroup && groups == 0 then .atom (.char ')')
            else token
          let groups := match token with
            | .openGroup => groups + 1
            | .closeGroup => groups - 1
            | _ => groups
          (tokens? extended fuel groups (some token) (token.leavesNothing nothing) rest).map
            (token :: ·)

/-- Repeats a pattern as often as the tokens after it say. -/
def repeatedBy (p : Pattern) : List Token → Pattern × List Token
  | .times least most :: rest => repeatedBy (.repeated p least most) rest
  | rest => (p, rest)

mutual

/-- Reads alternatives up to the end of their group. -/
def alternatives? (fuel : Nat) (tokens : List Token) : Option (Pattern × List Token) :=
  match fuel with
  | 0 => none
  | fuel + 1 =>
      match branch? fuel tokens with
      | some (first, .bar :: rest) =>
          (alternatives? fuel rest).map fun (second, rest) => (.either first second, rest)
      | other => other

/-- Reads one alternative. -/
def branch? (fuel : Nat) (tokens : List Token) : Option (Pattern × List Token) :=
  match fuel with
  | 0 => none
  | fuel + 1 =>
      match tokens with
      | .atom p :: rest =>
          let (p, rest) := repeatedBy p rest
          (branch? fuel rest).map fun (q, rest) => (.sequence p q, rest)
      | .openGroup :: rest =>
          match alternatives? fuel rest with
          | some (p, .closeGroup :: rest) =>
              let (p, rest) := repeatedBy p rest
              (branch? fuel rest).map fun (q, rest) => (.sequence p q, rest)
          | _ => none
      | .times _ _ :: rest => branch? fuel rest
      | rest => some (.empty, rest)

end

/-- The pattern that a regular expression describes. -/
def ofRegular? (extended : Bool) (cs : List Char) : Option Pattern := do
  let tokens ← tokens? extended (cs.length + 1) 0 none true cs
  let (p, []) ← alternatives? (2 * tokens.length + 2) tokens | none
  return p

end CallMigration.Pattern
