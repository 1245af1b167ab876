import CallMigration.TextRange

/-!
# Rows and columns

A byte offset is shown to the reader as a row and a column, both counted from one; columns count
characters. An offset inside a character gets the position after that character, and one past the
end the position of the end.
-/

namespace CallMigration

/-- A row and a column, both counted from one. -/
structure Position where
  row : Nat
  column : Nat
deriving DecidableEq, Inhabited

namespace Position

/-- The position after one more character. -/
def advance (p : Position) (c : Char) : Position :=
  if c = '\n' then ⟨p.row + 1, 1⟩ else ⟨p.row, p.column + 1⟩

/-- The position reached by walking over the characters that begin within the next bytes. -/
def walk (p : Position) : List Char → Nat → Position
  | [], _ => p
  | _ :: _, 0 => p
  | c :: rest, n + 1 => walk (p.advance c) rest (n + 1 - c.utf8Size)

/-- The position of a byte offset. -/
def ofOffset (source : String) (offset : Nat) : Position := walk ⟨1, 1⟩ source.toList offset

end Position

/-- A range together with the positions of its two ends. -/
structure Span where
  range : TextRange
  start : Position
  stop : Position
deriving DecidableEq, Inhabited

namespace Span

/-- The span of a range in a source text. -/
def ofRange (source : String) (range : TextRange) : Span where
  range := range
  start := .ofOffset source range.start
  stop := .ofOffset source range.stop

/-- The span of a range whose source text is not at hand: rows and columns are zero. -/
def unlocated (range : TextRange) : Span := ⟨range, ⟨0, 0⟩, ⟨0, 0⟩⟩

end Span

end CallMigration
