/-!
# Qualified names

A qualified name is a sequence of names with dots between them. Its last name is the simple name and
what stands before the last dot is its package part.
-/

namespace CallMigration.QualifiedName

/-- The text after the last dot, or all of it where there is none. -/
def simpleName (name : String) : String :=
  String.ofList (name.toList.reverse.takeWhile (· ≠ '.')).reverse

/-- The text before the last dot, or none of it where there is none. -/
def packagePart (name : String) : String :=
  String.ofList (name.toList.reverse.dropWhile (· ≠ '.')).tail.reverse

end CallMigration.QualifiedName
