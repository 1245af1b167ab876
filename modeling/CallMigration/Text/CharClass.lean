import CallMigration.Text.Alphabetic
import CallMigration.Text.Mark
import CallMigration.Text.Number
import CallMigration.Text.Recent

/-!
# Character classes

The Unicode classes by which source text, templates and metadata are read. ASCII characters are
decided directly and all others by the tables, so that questions about ASCII text evaluate
quickly.

* `isBlank`: the property White_Space;
* `isAlphabetic` and `isAlphanumeric`: what a name may begin and continue with;
* `isWordChar`: the class whose maximal runs are the words of a template.
-/

namespace CallMigration.Text

/-- White space: the Unicode property White_Space. -/
def isBlank (c : Char) : Bool :=
  if c.val < 0x80 then c == ' ' || (0x09 ≤ c.val && c.val ≤ 0x0D)
  else CodeRange.anyContains
    [(0x85, 0x85), (0xA0, 0xA0), (0x1680, 0x1680), (0x2000, 0x200A), (0x2028, 0x2029),
     (0x202F, 0x202F), (0x205F, 0x205F), (0x3000, 0x3000)] c.toNat

/-- Letters and all that behaves like one: the Unicode property Alphabetic. -/
def isAlphabetic (c : Char) : Bool :=
  if c.val < 0x80 then c.isAlpha else CodeRange.anyContains alphabeticRanges c.toNat

/-- Alphabetic characters and numbers of every kind. -/
def isAlphanumeric (c : Char) : Bool :=
  if c.val < 0x80 then c.isAlphanum
  else isAlphabetic c || CodeRange.anyContains numberRanges c.toNat

/-- Word characters: alphabetic characters, marks, decimal digits, connector punctuation and the
two join controls, apart from those that were assigned only recently. -/
def isWordChar (c : Char) : Bool :=
  if c.val < 0x80 then c.isAlphanum || c == '_'
  else (isAlphabetic c || CodeRange.anyContains markRanges c.toNat
    || CodeRange.anyContains decimalNumberRanges c.toNat
    || CodeRange.anyContains connectorRanges c.toNat
    || CodeRange.anyContains joinControlRanges c.toNat)
    && !CodeRange.anyContains recentWordRanges c.toNat

end CallMigration.Text
