/-!
# Imports that a fix brings along

The qualified types and the static members that a fix needs imported, each at most once and in
the order in which they were asked for.
-/

namespace CallMigration

/-- The imports that a fix asks for. -/
structure NewImports where
  types : List String
  statics : List String
deriving DecidableEq, Inhabited

namespace NewImports

/-- No imports. -/
def none : NewImports := ⟨[], []⟩

/-- Whether nothing is asked for. -/
def isEmpty (n : NewImports) : Bool := n.types.isEmpty && n.statics.isEmpty

/-- A list with an item at its end, unless it holds the item already. -/
def pushNew (items : List String) (item : String) : List String :=
  if items.contains item then items else items ++ [item]

/-- Asks for the import of a type. -/
def addType (n : NewImports) (name : String) : NewImports := { n with types := pushNew n.types name }

/-- Asks for the import of a static member. -/
def addStatic (n : NewImports) (member : String) : NewImports :=
  { n with statics := pushNew n.statics member }

/-- Asks for all that another fix asks for. -/
def merge (n more : NewImports) : NewImports :=
  ⟨more.types.foldl pushNew n.types, more.statics.foldl pushNew n.statics⟩

theorem mem_pushNew {items : List String} {item x : String} :
    x ∈ pushNew items item ↔ x ∈ items ∨ x = item := by
  unfold pushNew
  split
  · next h => constructor <;> grind
  · simp

/-- Pushing keeps a list free of repetitions. -/
theorem nodup_pushNew {items : List String} (item : String) (h : items.Nodup) :
    (pushNew items item).Nodup := by
  unfold pushNew
  split
  · exact h
  · next hnew => exact List.nodup_append.mpr ⟨h, by simp, by grind⟩

end NewImports

end CallMigration
