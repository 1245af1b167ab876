/-!
# Replacing a text

A text with all occurrences of another one replaced, from left to right.
-/

namespace CallMigration.Text

/-- Replaces the occurrences of a text; `pending` counts the characters that belong to the last
occurrence. -/
def replaceFrom (part replacement : List Char) (pending : Nat) : List Char → List Char
  | [] => []
  | c :: rest =>
      match pending with
      | n + 1 => replaceFrom part replacement n rest
      | 0 =>
          if part.isPrefixOf (c :: rest) then
            replacement ++ replaceFrom part replacement (part.length - 1) rest
          else c :: replaceFrom part replacement 0 rest

/-- A text with all occurrences of another one, which is not empty, replaced. -/
def replaceAll (part replacement text : List Char) : List Char :=
  replaceFrom part replacement 0 text

end CallMigration.Text
