import CallMigration.Pattern.CharClass

/-!
# Globs

The patterns that stand for names: `*` is any text, `?` any character, brackets a set of characters
and a backslash takes the meaning from the character after it.
-/

namespace CallMigration.Pattern

/-- A character of a glob, with whether it is quoted and stands for itself. -/
abbrev GlobChar := Char × Bool

/-- The pattern of a glob; quoted characters stand for themselves. -/
def ofGlobWithin : Nat → List GlobChar → Pattern
  | 0, _ => .empty
  | _ + 1, [] => .empty
  | fuel + 1, ('*', false) :: rest =>
      .sequence (.repeated (.oneOf .all) 0 none) (ofGlobWithin fuel rest)
  | fuel + 1, ('?', false) :: rest => .sequence (.oneOf .all) (ofGlobWithin fuel rest)
  | fuel + 1, ('\\', false) :: (c, _) :: rest => .sequence (.char c) (ofGlobWithin fuel rest)
  | fuel + 1, ('[', false) :: rest =>
      match CharSet.read? (rest.map (·.1)) with
      | some (set, after) =>
          .sequence (.oneOf set) (ofGlobWithin fuel (rest.drop (rest.length - after.length)))
      | none => .sequence (.char '[') (ofGlobWithin fuel rest)
  | fuel + 1, (c, _) :: rest => .sequence (.char c) (ofGlobWithin fuel rest)

/-- The pattern of a glob. -/
def ofGlob (glob : List GlobChar) : Pattern := ofGlobWithin (glob.length + 1) glob

end CallMigration.Pattern
