import CallMigration.Text.Scan

/-!
# Type declarations

The types that a file declares are found by their keyword: `class`, `interface`, `enum` or `record`
at the beginning of a line or after a character that cannot be part of a longer name, then blanks,
then the name.
-/

namespace CallMigration.TypeDeclaration

/-- The keywords that introduce a type. -/
def typeKeywords : List (List Char) :=
  ["class".toList, "interface".toList, "enum".toList, "record".toList]

/-- Whether a character may begin the name of a declared type. -/
def isTypeNameStart (c : Char) : Bool := c.isAlpha || c == '_' || c == '$'

/-- Whether a character may continue the name of a declared type. -/
def isTypeNamePart (c : Char) : Bool := Text.isWordChar c || c == '$'

/-- A declaration that begins right here with the given keyword: its length and the name. -/
def ofKeyword? (keyword text : List Char) : Option (Nat × List Char) :=
  if keyword.isPrefixOf text then
    let rest := text.drop keyword.length
    let blanks := (rest.takeWhile Text.isBlank).length
    let name := (rest.drop blanks).takeWhile isTypeNamePart
    if 0 < blanks ∧ name.head?.any isTypeNameStart then
      some (keyword.length + blanks + name.length, name)
    else none
  else none

/-- A declaration that begins right here. -/
def here? (text : List Char) : Option (Nat × List Char) :=
  typeKeywords.findSome? (ofKeyword? · text)

/-- A declaration at a place: at the beginning of a line, or behind one character that neither
belongs to a name nor is a dot. -/
def matcher : Text.Matcher (List Char) := fun before text =>
  let atLineStart := if before.all (· = '\n') then here? text else none
  let behindOther :=
    match text with
    | [] => none
    | c :: rest =>
        if c = '.' ∨ isTypeNamePart c then none
        else (here? rest).map fun (n, name) => (n + 1, name)
  atLineStart.or behindOther

/-- The names of the types declared in a source text, in order. -/
def namesIn (source : List Char) : List String :=
  (Text.allMatches matcher source).map String.ofList

end CallMigration.TypeDeclaration
