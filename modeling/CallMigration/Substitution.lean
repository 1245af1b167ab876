import CallMigration.Ordering
import CallMigration.Text.Scan

/-!
# Substitution in a template

The text of a template is changed in one pass in which names stand for other text: `this` for the
receiver, simple type names for the spelling of the type, parameters for arguments. Inserted text is
never looked at again.

A name is found where a word begins before it and ends after it. A parameter that is called like a
method keeps its name. Where the arguments for a variable-length parameter are missing, the comma in
front of it goes too.
-/

namespace CallMigration

/-- What a parameter stands for. -/
structure Binding where
  name : String
  value : String
  /-- The parameter is of variable length and no argument is left for it. -/
  emptyVarargs : Bool
deriving DecidableEq, Inhabited

/-- What the names in a template stand for. -/
structure Substitution where
  /-- The text that `this` stands for. -/
  receiver : Option String
  /-- Simple type names and their spellings. -/
  types : List (String × String)
  /-- The parameters. -/
  parameters : List Binding
deriving DecidableEq, Inhabited

namespace Substitution

/-- What a name turns out to be. -/
inductive Meaning where
  /-- Text that replaces the name wherever it stands. -/
  | literal (text : String)
  /-- A parameter, which is replaced unless it is called. -/
  | parameter (binding : Binding)
deriving DecidableEq

/-- The meaning of a name: the receiver first, then types, then parameters. -/
def meaning? (s : Substitution) (word : String) : Option Meaning :=
  match (if word = "this" then s.receiver else none) with
  | some receiver => some (.literal receiver)
  | none =>
      match s.types.find? (·.1 = word) with
      | some (_, spelling) => some (.literal spelling)
      | none => (s.parameters.find? (·.name = word)).map .parameter

/-- The names that have a meaning, in the order in which they are tried. -/
def words (s : Substitution) : List String :=
  inOrder (fun a b => !decide (b < a))
    (((if s.receiver.isSome then ["this"] else []) ++ s.types.map (·.1)
      ++ s.parameters.map (·.name)).filter (· ≠ ""))

/-- A name found in a template: the comma and blanks before it, if any, the name, and whether an
opening parenthesis follows. -/
structure Occurrence where
  comma : List Char
  word : List Char
  called : Bool
deriving DecidableEq

/-- The first of the words that stands at a place as a word of its own. -/
def wordAt? (words : List (List Char)) (before : Option Char) (text : List Char) :
    Option (List Char) :=
  if Text.isWordBoundary before text.head? then
    words.find? fun word =>
      word.isPrefixOf text &&
        Text.isWordBoundary (word.getLast?.or before) (text.drop word.length).head?
  else none

/-- The occurrence of a word at a place, behind the given comma and blanks. -/
def occurrenceBehind? (words : List (List Char)) (comma : List Char) (before : Option Char)
    (text : List Char) : Option Occurrence :=
  (wordAt? words (comma.getLast?.or before) text).map fun word =>
    ⟨comma, word, (text.drop word.length).head? == some '('⟩

/-- The occurrence of a word at a place. A comma at that place is taken along, with as many blanks
after it as leave a word to be found. -/
def occurrenceAt? (words : List (List Char)) (before : Option Char) (text : List Char) :
    Option Occurrence :=
  let behindComma :=
    match text with
    | ',' :: rest =>
        let blanks := (rest.takeWhile Text.isBlank).length
        (List.range (blanks + 1)).reverse.findSome? fun n =>
          occurrenceBehind? words (',' :: rest.take n) before (rest.drop n)
    | _ => none
  behindComma.or (occurrenceBehind? words [] before text)

/-- What is written for an occurrence. -/
def replacement (s : Substitution) (o : Occurrence) : List Char :=
  match s.meaning? (String.ofList o.word) with
  | some (.literal text) => o.comma ++ text.toList
  | some (.parameter binding) =>
      if o.called then o.comma ++ o.word
      else (if binding.emptyVarargs then [] else o.comma) ++ binding.value.toList
  | none => o.comma ++ o.word

/-- Finds the next occurrence and what is written for it. -/
def matcher (s : Substitution) (words : List (List Char)) : Text.Matcher (List Char) :=
  fun before text =>
    (occurrenceAt? words before text).map fun o =>
      (o.comma.length + o.word.length, s.replacement o)

/-- The template with the meaning of every name written in its place. -/
def apply (s : Substitution) (template : String) : String :=
  String.ofList (Text.replaceMatches (s.matcher (s.words.map String.toList)) template.toList)

/-- The substitution of parameters alone. -/
def ofParameters (parameters : List Binding) : Substitution := ⟨none, [], parameters⟩

end Substitution

end CallMigration
