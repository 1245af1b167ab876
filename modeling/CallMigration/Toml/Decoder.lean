import CallMigration.Toml

/-!
# Decoding TOML

Values of a given shape are read off a TOML value. A record is a table of named entries, none of
them unknown, or an array that begins with the same entries in their order.
-/

namespace CallMigration.Toml

/-- A text. -/
def asText? : Toml → Option String
  | .text s => some s
  | _ => none

/-- A truth value. -/
def asBool? : Toml → Option Bool
  | .boolean b => some b
  | _ => none

/-- A whole number that is not negative and fits into 64 bits. -/
def asCount? : Toml → Option Nat
  | .integer (some n) => if 0 ≤ n ∧ n < UInt64.size then some n.toNat else none
  | _ => none

/-- The items of an array, all of one shape. -/
def asList? {α : Type} (decode : Toml → Option α) : Toml → Option (List α)
  | .array items => items.mapM decode
  | _ => none

/-- An entry that may be absent. -/
def optional? {α : Type} (decode : Toml → Option α) : Option Toml → Option (Option α)
  | none => some none
  | some value => (decode value).map some

/-- An entry that stands for a given value when it is absent. -/
def orElse? {α : Type} (absent : α) (decode : Toml → Option α) (entry : Option Toml) : Option α :=
  (optional? decode entry).map (·.getD absent)

/-- The entries under the given names, if there are no others. -/
def Entries.record? (names : List String) (entries : Entries) : Option (List (Option Toml)) :=
  if entries.all fun (name, _) => names.contains name then some (names.map entries.find?) else none

/-- The entries of a record in the order of their names, whether it is a table or an array. -/
def record? (names : List String) : Toml → Option (List (Option Toml))
  | .table _ entries => Entries.record? names entries
  | .array items =>
      if names.length ≤ items.length then some ((items.take names.length).map some) else none
  | _ => none

end CallMigration.Toml
