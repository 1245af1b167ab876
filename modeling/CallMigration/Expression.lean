import CallMigration.TextRange
import CallMigration.Text.Trim

/-!
# Expressions and their side effects

An expression is a piece of source text together with its range. Without type information its
spelling decides whether evaluating it may have a side effect: literals and dotted chains of names
have none, everything else is taken to have one.
-/

namespace CallMigration

/-- An expression: its range in the source and its spelling. -/
structure Expression where
  range : TextRange
  text : String
deriving DecidableEq, Inhabited

namespace Expression

/-- Whether a character may begin a name. -/
def isNameStart (c : Char) : Bool := Text.isAlphabetic c || c == '_' || c == '$'

/-- Whether a character may continue a name. -/
def isNamePart (c : Char) : Bool := Text.isAlphanumeric c || c == '_' || c == '$'

/-- Whether a text is a single name. -/
def isName : List Char → Bool
  | [] => false
  | c :: rest => isNameStart c && rest.all isNamePart

/-- Whether a text is a chain of names with dots between them; blanks may stand around the dots. -/
def isNameChain (text : List Char) : Bool :=
  (Text.splitOn '.' text).all (fun part => isName (Text.trim part)) && text != "new".toList

/-- Whether a text of at least two characters begins and ends with the given quote. -/
def isQuotedBy (quote : Char) (text : List Char) : Bool :=
  2 ≤ text.length && text.head? == some quote && text.getLast? == some quote

/-- Whether a text is a digit followed by letters, digits, dots and underscores of ASCII. -/
def isUnsignedNumber : List Char → Bool
  | [] => false
  | c :: rest => c.isDigit && rest.all fun d => d.isAlphanum || d == '.' || d == '_'

/-- Whether a text is spelled like a number, with an optional minus sign in front. -/
def isNumber : List Char → Bool
  | '-' :: digits => isUnsignedNumber digits
  | digits => isUnsignedNumber digits

/-- Whether a text is spelled like a literal. -/
def isLiteral (text : List Char) : Bool :=
  ["true".toList, "false".toList, "null".toList].contains text
    || isQuotedBy '"' text || isQuotedBy '\'' text || isNumber text

/-- Whether evaluating an expression of this spelling may have a side effect. -/
def mayHaveSideEffect (e : Expression) : Bool :=
  let text := Text.trim e.text.toList
  !(isLiteral text || isNameChain text)

end Expression

end CallMigration
