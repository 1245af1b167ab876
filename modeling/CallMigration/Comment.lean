/-!
# Comments in source text

A call that carries a comment may hold context that a mechanical replacement would lose.
`hasComment` looks for a comment opener outside string, character and text block literals. The scan
reads bytes: every byte that matters to it is ASCII, and no byte of a longer character is.

* A text block runs from `"""` to the next `"""`.
* A quoted literal runs to the same quote or to the end of the line.
* A backslash in a literal hides the next byte.
* A literal that is never closed hides the rest of the text.
-/

namespace CallMigration.Comment

/-- The byte of `/`. -/
@[match_pattern] abbrev slash : UInt8 := 0x2F

/-- The byte of `*`. -/
@[match_pattern] abbrev star : UInt8 := 0x2A

/-- The byte of the double quote. -/
@[match_pattern] abbrev doubleQuote : UInt8 := 0x22

/-- The byte of the single quote. -/
@[match_pattern] abbrev singleQuote : UInt8 := 0x27

/-- The byte of the backslash. -/
@[match_pattern] abbrev backslash : UInt8 := 0x5C

/-- The byte of the line feed. -/
@[match_pattern] abbrev lineFeed : UInt8 := 0x0A

/-- What the scan stands in. -/
inductive Inside where
  /-- Program text, outside any literal. -/
  | code
  /-- A literal opened by the given quote. -/
  | quoted (quote : UInt8)
  /-- A text block. -/
  | textBlock
deriving DecidableEq

/-- Whether a comment opens in the bytes, read from inside the given place. -/
def opensIn : Inside → List UInt8 → Bool
  | _, [] => false
  | .code, slash :: slash :: _ => true
  | .code, slash :: star :: _ => true
  | .code, doubleQuote :: doubleQuote :: doubleQuote :: rest => opensIn .textBlock rest
  | .code, b :: rest =>
      if b = doubleQuote ∨ b = singleQuote then opensIn (.quoted b) rest else opensIn .code rest
  | .quoted _, [backslash] => false
  | .quoted quote, backslash :: _ :: rest => opensIn (.quoted quote) rest
  | .quoted quote, b :: rest =>
      if b = quote ∨ b = lineFeed then opensIn .code rest else opensIn (.quoted quote) rest
  | .textBlock, [backslash] => false
  | .textBlock, backslash :: _ :: rest => opensIn .textBlock rest
  | .textBlock, doubleQuote :: doubleQuote :: doubleQuote :: rest => opensIn .code rest
  | .textBlock, _ :: rest => opensIn .textBlock rest

/-- Whether source text holds a comment. -/
def hasComment (text : String) : Bool := opensIn .code text.toUTF8.toList

end CallMigration.Comment
