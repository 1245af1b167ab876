import CallMigration.Json
import CallMigration.Text.HexDigit

/-!
# Printing JSON

A value is printed over several lines: every item and every member has a line of its own, indented
by two spaces for each level. Empty arrays and objects stay on one line.
-/

namespace CallMigration.Json

/-- A character as it is written in a string. -/
def escape (c : Char) : List Char :=
  if c = '"' then "\\\"".toList
  else if c = '\\' then "\\\\".toList
  else if c = '\x08' then "\\b".toList
  else if c = '\x0c' then "\\f".toList
  else if c = '\n' then "\\n".toList
  else if c = '\r' then "\\r".toList
  else if c = '\t' then "\\t".toList
  else if c.val < 0x20 then
    "\\u00".toList ++ [Text.hexDigit (c.toNat / 16), Text.hexDigit (c.toNat % 16)]
  else [c]

/-- A text as a string of the document. -/
def quote (text : String) : List Char := ['"'] ++ text.toList.flatMap escape ++ ['"']

/-- A string or a name; one that names no text is printed as `null`. -/
def quoteOrNull : Option String → List Char
  | some text => quote text
  | none => "null".toList

/-- A new line at a level of indentation. -/
def newLine (level : Nat) : List Char := '\n' :: List.replicate (2 * level) ' '

mutual

/-- A value that begins at a level of indentation. -/
def render (level : Nat) : Json → List Char
  | .null => "null".toList
  | .bool true => "true".toList
  | .bool false => "false".toList
  | .number literal => literal.toList
  | .string text => quoteOrNull text
  | .array [] => "[]".toList
  | .array (item :: items) =>
      ['['] ++ newLine (level + 1) ++ render (level + 1) item
        ++ renderItems (level + 1) items ++ newLine level ++ [']']
  | .object [] => "\x7b\x7d".toList
  | .object ((name, value) :: members) =>
      ['\x7b'] ++ newLine (level + 1) ++ quoteOrNull name ++ ": ".toList
        ++ render (level + 1) value ++ renderMembers (level + 1) members
        ++ newLine level ++ ['\x7d']

/-- The items after the first, each on a line of its own. -/
def renderItems (level : Nat) : List Json → List Char
  | [] => []
  | item :: items => [','] ++ newLine level ++ render level item ++ renderItems level items

/-- The members after the first, each on a line of its own. -/
def renderMembers (level : Nat) : List (Option String × Json) → List Char
  | [] => []
  | (name, value) :: members =>
      [','] ++ newLine level ++ quoteOrNull name ++ ": ".toList ++ render level value
        ++ renderMembers level members

end

/-- A value over several lines. -/
def pretty (value : Json) : String := String.ofList (render 0 value)

end CallMigration.Json
