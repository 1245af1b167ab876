import CallMigration.Edit
import CallMigration.NewImports
import CallMigration.QualifiedName
import CallMigration.Text.Lines
import CallMigration.TypeDeclaration

/-!
# The import table of a file

What a source file says about names: its package, its imports, the types it declares, and where a
further import goes. The table answers two questions: how a type is spelled in the file
(`qualify`), and which edit adds given imports (`insertion?`).
-/

namespace CallMigration

/-- The package, the imports and the declared types of a file. -/
structure ImportTable where
  package : Option String
  imports : List String
  staticImports : List String
  declaredTypes : List String
  /-- The byte offset after the line of the package. -/
  packageEnd : Option Nat
  /-- The byte offset after the line of the last import. -/
  importsEnd : Option Nat
deriving DecidableEq, Inhabited

namespace ImportTable

/-- The table of a file without any declarations. -/
def empty : ImportTable := ⟨none, [], [], [], none, none⟩

/-- The body of a statement: the text before the first semicolon, trimmed. -/
def statementBody (text : List Char) : String :=
  String.ofList (Text.trim (text.takeWhile (· ≠ ';')))

/-- Takes note of a line that ends at the given offset. -/
def readLine (table : ImportTable) (line : List Char) (lineEnd : Nat) : ImportTable :=
  let trimmed := Text.trim line
  match Text.stripStart? "package ".toList trimmed with
  | some rest => { table with package := some (statementBody rest), packageEnd := some lineEnd }
  | none =>
      match Text.stripStart? "import ".toList trimmed with
      | none => table
      | some rest =>
          let rest := Text.trimStart rest
          match Text.stripStart? "static ".toList rest with
          | some member =>
              { table with
                staticImports := table.staticImports ++ [statementBody member]
                importsEnd := some lineEnd }
          | none =>
              { table with
                imports := table.imports ++ [statementBody rest]
                importsEnd := some lineEnd }

/-- Takes note of lines that begin at the given offset. -/
def readLines (table : ImportTable) (offset : Nat) : List (List Char) → ImportTable
  | [] => table
  | line :: rest =>
      let lineEnd := offset + Text.byteLength line
      readLines (table.readLine line lineEnd) lineEnd rest

/-- The import table of a source text. -/
def ofSource (source : String) : ImportTable :=
  let text := source.toList
  { readLines empty 0 (Text.linesWithEndings text) with
    declaredTypes := TypeDeclaration.namesIn text }

/-- Whether the file declares a type of the name's simple name that is not the named type. -/
def declaresOther (table : ImportTable) (name : String) : Bool :=
  let simple := QualifiedName.simpleName name
  let own := match table.package with
    | some package => package ++ "." ++ simple
    | none => simple
  own != name && table.declaredTypes.contains simple

/-- Whether the named type can be used by its simple name as things are: it is in `java.lang` or in
the file's own package, or it is imported by name or by a wildcard. -/
def isVisible (table : ImportTable) (name : String) : Bool :=
  let package := QualifiedName.packagePart name
  package == "java.lang" || table.package == some package
    || table.imports.any fun i => i == name || i == package ++ ".*"

/-- Whether one of the imports gives the name's simple name to another type. -/
def clashes (imports : List String) (name : String) : Bool :=
  imports.any fun i =>
    i != name && QualifiedName.simpleName i == QualifiedName.simpleName name

/-- How a type is spelled in the file, and the imports needed for that. -/
def qualify (table : ImportTable) (name : String) (needed : NewImports) : String × NewImports :=
  let simple := QualifiedName.simpleName name
  if table.declaresOther name then (name, needed)
  else if table.isVisible name then (simple, needed)
  else if clashes table.imports name || clashes needed.types name then (name, needed)
  else (simple, needed.addType name)

/-- The import lines for those requests that the file does not provide for. -/
def missingLines (table : ImportTable) (requests : NewImports) : List Char :=
  ((requests.types.filter fun name => !table.imports.contains name && !table.isVisible name).flatMap
      fun name => "import ".toList ++ name.toList ++ ";\n".toList) ++
    ((requests.statics.filter fun member => !table.staticImports.contains member).flatMap
      fun member => "import static ".toList ++ member.toList ++ ";\n".toList)

/-- Whether a place in the source is in the middle of a line. -/
def needsNewline (source : String) (offset : Nat) : Bool :=
  match Text.splitAtByte? source.toList offset with
  | some (before, _) => before.getLast?.any (· ≠ '\n')
  | none => false

/-- The edit that adds the imports the file lacks: after its last import, else after its package,
else at its beginning. -/
def insertion? (table : ImportTable) (source : String) (requests : NewImports) : Option Edit :=
  let lines := table.missingLines requests
  if lines.isEmpty then none
  else
    match table.importsEnd, table.packageEnd with
    | some offset, _ =>
        let lead := if needsNewline source offset then ['\n'] else []
        some (.insertion offset (String.ofList (lead ++ lines)))
    | none, some offset =>
        let lead := if needsNewline source offset then ['\n', '\n'] else ['\n']
        some (.insertion offset (String.ofList (lead ++ lines)))
    | none, none => some (.insertion 0 (String.ofList (lines ++ ['\n'])))

end ImportTable

end CallMigration
