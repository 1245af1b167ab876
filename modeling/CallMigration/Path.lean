import CallMigration.Text.Trim

/-!
# Paths

A path is kept as it is spelled; `/` separates its names. Repeated and trailing separators and the
name `.` other than at the very beginning count for nothing when a path is taken apart, but stay in
the spelling.
-/

namespace CallMigration

/-- A path of the file system, as spelled. -/
structure Path where
  text : String
deriving DecidableEq, Inhabited

namespace Path

/-- The part of a spelling that belongs to no name: the root, or a dot that begins the path. -/
def lead : List Char → List Char
  | '/' :: _ => ['/']
  | ['.'] => ['.']
  | '.' :: '/' :: _ => ['.']
  | _ => []

/-- Drops from a reversed spelling the separators and lone dots that count for nothing. -/
def dropIdle : List Char → List Char
  | '/' :: rest => dropIdle rest
  | '.' :: '/' :: rest => dropIdle rest
  | ['.'] => []
  | rest => rest

/-- The reversed names of a spelling, without what counts for nothing at their end. -/
def reversedNames (cs : List Char) : List Char := dropIdle (cs.drop (lead cs).length).reverse

/-- The last name of the path, unless that is `..` or there is none. -/
def fileName? (p : Path) : Option String :=
  match (reversedNames p.text.toList).takeWhile (· ≠ '/') with
  | [] => none
  | ['.', '.'] => none
  | name => some (String.ofList name.reverse)

/-- The path without its last name. -/
def parent? (p : Path) : Option Path :=
  let cs := p.text.toList
  match reversedNames cs with
  | [] => if lead cs = ['.'] then some ⟨""⟩ else none
  | names =>
      let above := dropIdle (names.dropWhile (· ≠ '/'))
      some ⟨String.ofList (lead cs ++ above.reverse)⟩

/-- The path and the paths above it, nearest first; `fuel` bounds their number. -/
def ancestorsWithin : Nat → Path → List Path
  | 0, p => [p]
  | fuel + 1, p =>
      match p.parent? with
      | some above => p :: ancestorsWithin fuel above
      | none => [p]

/-- The path and the paths above it, nearest first. Each step up takes at least one character. -/
def ancestors (p : Path) : List Path := p.ancestorsWithin p.text.length

/-- Whether the path begins at the root. -/
def isAbsolute (p : Path) : Bool := p.text.toList.head? == some '/'

/-- A path read from inside another one: an absolute one replaces it, any other is put after it,
with a separator where there is none. -/
def join (base inner : Path) : Path :=
  if inner.isAbsolute then inner
  else if base.text.toList.getLast?.all (· = '/') then ⟨base.text ++ inner.text⟩
  else ⟨base.text ++ "/" ++ inner.text⟩

/-- The ending of the names of manifests. -/
def manifestSuffix : String := ".inlineme.json"

/-- Whether the path's last name is that of a manifest. -/
def isManifest (p : Path) : Bool :=
  p.fileName?.any fun name => manifestSuffix.toList.isSuffixOf name.toList

end Path

end CallMigration
