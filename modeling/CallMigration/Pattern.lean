/-!
# Text patterns

A pattern describes texts; `Pattern.ends` lists where the occurrences of a pattern end that begin at
a given place. The places of a text are numbered from zero, the last one being its end.
-/

namespace CallMigration

/-- A set of characters: those in some ranges, or those in none of them. -/
structure CharSet where
  negated : Bool
  ranges : List (Char × Char)
deriving DecidableEq, Inhabited

namespace CharSet

/-- The set of one character. -/
def single (c : Char) : CharSet := ⟨false, [(c, c)]⟩

/-- The set of all characters. -/
def all : CharSet := ⟨true, []⟩

/-- Whether a character is in the set. -/
def contains (set : CharSet) (c : Char) : Bool :=
  set.ranges.any (fun (low, high) => low ≤ c && c ≤ high) != set.negated

/-- The letters of the alphabet in lower case. -/
def letters : List Char := "abcdefghijklmnopqrstuvwxyz".toList

/-- The set for a search in which upper and lower case are the same. -/
def ignoringCase (set : CharSet) : CharSet :=
  let listed (c : Char) : Bool := set.ranges.any fun (low, high) => low ≤ c && c ≤ high
  let both := letters.filter fun c => listed c || listed c.toUpper
  { set with ranges := set.ranges ++ both.flatMap fun c => [(c, c), (c.toUpper, c.toUpper)] }

end CharSet

/-- A description of texts. -/
inductive Pattern where
  /-- The empty text. -/
  | empty
  | oneOf (set : CharSet)
  | sequence (first second : Pattern)
  | either (first second : Pattern)
  /-- At least `least` and at most `most` times, or any number of times from `least` on. -/
  | repeated (p : Pattern) (least : Nat) (most : Option Nat)
  /-- The empty text where the whole text begins. -/
  | start
  /-- The empty text where the whole text ends. -/
  | stop
  /-- The empty text where a word begins. -/
  | wordStart
  /-- The empty text where a word ends. -/
  | wordStop
  /-- The empty text where no word begins or ends. -/
  | noWordEdge
deriving DecidableEq, Inhabited

namespace Pattern

/-- The pattern of one character. -/
def char (c : Char) : Pattern := .oneOf (.single c)

/-- The pattern of a text. -/
def literal (cs : List Char) : Pattern := cs.foldr (fun c p => .sequence (.char c) p) .empty

/-- The pattern for a search in which upper and lower case are the same. -/
def ignoringCase : Pattern → Pattern
  | .oneOf set => .oneOf set.ignoringCase
  | .sequence first second => .sequence (ignoringCase first) (ignoringCase second)
  | .either first second => .either (ignoringCase first) (ignoringCase second)
  | .repeated p least most => .repeated (ignoringCase p) least most
  | p => p

/-- The places that a number of steps lead to. -/
def afterSteps (step : Nat → List Nat) : Nat → List Nat → List Nat
  | 0, places => places
  | n + 1, places => afterSteps step n (places.flatMap step).eraseDups

/-- The places that up to a number of further steps lead to, from those reached last. -/
def withinSteps (step : Nat → List Nat) : Nat → List Nat → List Nat → List Nat
  | 0, reached, _ => reached
  | n + 1, reached, last =>
      match (last.flatMap step).eraseDups.filter (!reached.contains ·) with
      | [] => reached
      | fresh => withinSteps step n (reached ++ fresh) fresh

/-- Whether a letter, a digit or an underscore stands at a place. -/
def isWordAt (text : Array Char) (place : Nat) : Bool :=
  text[place]?.any fun c => c.isAlphanum || c == '_'

/-- Whether a letter, a digit or an underscore stands before a place. -/
def isWordBefore (text : Array Char) (place : Nat) : Bool :=
  place != 0 && isWordAt text (place - 1)

/-- Where the occurrences end that begin at a place of a text. -/
def ends (text : Array Char) : Pattern → Nat → List Nat
  | .empty, place => [place]
  | .oneOf set, place => if text[place]?.any set.contains then [place + 1] else []
  | .sequence first second, place =>
      ((ends text first place).flatMap (ends text second)).eraseDups
  | .either first second, place => (ends text first place ++ ends text second place).eraseDups
  | .repeated p least most, place =>
      let reached := afterSteps (ends text p) least [place]
      withinSteps (ends text p) (most.elim (text.size + 1) (· - least)) reached reached
  | .start, place => if place = 0 then [place] else []
  | .stop, place => if place = text.size then [place] else []
  | .wordStart, place =>
      if isWordAt text place && !isWordBefore text place then [place] else []
  | .wordStop, place =>
      if isWordBefore text place && !isWordAt text place then [place] else []
  | .noWordEdge, place => if isWordBefore text place == isWordAt text place then [place] else []

/-- Whether the pattern describes a text as a whole. -/
def describes (p : Pattern) (text : List Char) : Bool :=
  (ends text.toArray p 0).contains text.length

end Pattern

end CallMigration
