import CallMigration.Diff.Hunk
import CallMigration.Path
import CallMigration.Text.Lines

/-!
# Unified diffs

The differences between two texts in the unified format: two lines that name the file, then every
hunk under a line with its place and size on both sides. Texts with the same lines have an empty
diff.
-/

namespace CallMigration.Diff

/-- The lines of a text. -/
def linesOf (text : String) : List String := (Text.lines text.toList).map String.ofList

/-- The number of the first line of a side: one more than the lines before it, or, for a side
without lines, the number of the line before it. -/
def lineNumber (before size : Nat) : Nat := if size = 0 then before else before + 1

/-- The place and the size of a hunk on both sides. -/
def Hunk.header (hunk : Hunk) (script : Script) : String :=
  let shown : Script := hunk.steps script
  let earlier : Script := script.take hunk.start
  let oldSize := shown.before.length
  let newSize := shown.after.length
  "@@ -" ++ toString (lineNumber earlier.before.length oldSize) ++ "," ++ toString oldSize
    ++ " +" ++ toString (lineNumber earlier.after.length newSize) ++ "," ++ toString newSize
    ++ " @@"

/-- A step as a line of a hunk. -/
def Step.line : Step → String
  | keep line => " " ++ line
  | remove line => "-" ++ line
  | add line => "+" ++ line

/-- The lines of a hunk, its header first. -/
def Hunk.lines (hunk : Hunk) (script : Script) : List String :=
  hunk.header script :: (hunk.steps script).map Step.line

/-- The lines of the diff for a script; a script without changes has none. -/
def Script.unifiedLines (script : Script) (path : Path) (context : Nat) : List String :=
  match Hunk.ofScript context script with
  | [] => []
  | hunks =>
      ("--- a/" ++ path.text) :: ("+++ b/" ++ path.text) ::
        hunks.flatMap fun hunk => hunk.lines script

/-- The diff between two texts with so many lines of context. -/
def unified (old new : String) (path : Path) (context : Nat) : String :=
  let script := Script.ofLines (linesOf old) (linesOf new)
  String.join ((script.unifiedLines path context).map (· ++ "\n"))

/-- The lines of context where nothing else is said. -/
def defaultContext : Nat := 3

end CallMigration.Diff
