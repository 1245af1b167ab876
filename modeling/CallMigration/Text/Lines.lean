import CallMigration.Text.Trim

/-!
# Lines

A line runs to the line feed that ends it or to the end of the text. Laid end to end, the lines
with their endings are the text (`flatten_linesWithEndings`).
-/

namespace CallMigration.Text

/-- The lines of a text, each with the line feed that ends it. -/
def linesWithEndings (cs : List Char) : List (List Char) :=
  cs.foldr (fun c lines => if c = '\n' then ['\n'] :: lines else consFirst c lines) []

@[simp] theorem linesWithEndings_nil : linesWithEndings [] = [] := rfl

@[simp] theorem linesWithEndings_cons (c : Char) (cs : List Char) :
    linesWithEndings (c :: cs) =
      if c = '\n' then ['\n'] :: linesWithEndings cs else consFirst c (linesWithEndings cs) := rfl

/-- Laid end to end, the lines with their endings are the text. -/
theorem flatten_linesWithEndings (cs : List Char) : (linesWithEndings cs).flatten = cs := by
  induction cs with
  | nil => rfl
  | cons c cs ih => cases hs : linesWithEndings cs <;> grind [linesWithEndings_cons, consFirst]

/-- A line without its ending: a line feed, and a carriage return directly before it. -/
def withoutEnding (line : List Char) : List Char :=
  match line.reverse with
  | '\n' :: '\r' :: rest => rest.reverse
  | '\n' :: rest => rest.reverse
  | _ => line

/-- The lines of a text without their endings. -/
def lines (cs : List Char) : List (List Char) := (linesWithEndings cs).map withoutEnding

end CallMigration.Text
