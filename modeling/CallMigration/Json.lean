/-!
# JSON values

A JSON document as a tree. Numbers keep their spelling, objects keep the order of their members and
any repetitions among them; what a reader makes of these is not decided here.
-/

namespace CallMigration

/-- A JSON value. A string or member name is `none` where its escapes name no text, because a
surrogate stands without its partner. -/
inductive Json where
  | null
  | bool (b : Bool)
  | number (literal : String)
  | string (text : Option String)
  | array (items : List Json)
  | object (members : List (Option String × Json))
deriving Inhabited

namespace Json

/-- The string value of a text. -/
def ofText (text : String) : Json := .string (some text)

/-- The number value of a natural number. -/
def ofNat (n : Nat) : Json := .number (toString n)

/-- The object with the given members. -/
def ofMembers (members : List (String × Json)) : Json :=
  .object (members.map fun (name, value) => (some name, value))

end Json

end CallMigration
