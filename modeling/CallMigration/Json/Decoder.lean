import CallMigration.Json

/-!
# Decoding JSON

Values of a given shape are read off a JSON tree. A record is an object of named members, or an
array of the same members in their order. A member may have several names; repeating a member is an
error, and so is an unknown one where the record is strict.
-/

namespace CallMigration.Json

/-- A text. -/
def text? : Json → Option String
  | .string text => text
  | _ => none

/-- A truth value. -/
def bool? : Json → Option Bool
  | .bool b => some b
  | _ => none

/-- The value of a number spelled in digits alone, if it fits into 64 bits. -/
def offset? : Json → Option Nat
  | .number literal =>
      if literal.toList.all Char.isDigit then
        let n := literal.toList.foldl (fun n c => n * 10 + (c.toNat - '0'.toNat)) 0
        if n < UInt64.size then some n else none
      else none
  | _ => none

/-- The items of an array, all of one shape. -/
def listOf? {α : Type} (decode : Json → Option α) : Json → Option (List α)
  | .array items => items.mapM decode
  | _ => none

/-- A value that may be `null`. -/
def nullable? {α : Type} (decode : Json → Option α) : Json → Option (Option α)
  | .null => some none
  | value => (decode value).map some

/-- A member that must be there. -/
def required? {α : Type} (decode : Json → Option α) (member : Option Json) : Option α :=
  member.bind decode

/-- A member that stands for a given value when it is not there. -/
def orElse? {α : Type} (absent : α) (decode : Json → Option α) : Option Json → Option α
  | none => some absent
  | some value => decode value

/-- The member under one of its names, if it is there; `none` if it is there more than once. -/
def single? (members : List (Option String × Json)) (names : List String) :
    Option (Option Json) :=
  match members.filter fun (name, _) => name.any names.contains with
  | [] => some none
  | [(_, value)] => some (some value)
  | _ => none

/-- The members of a record in the order of their names, whether it is an object or an array. -/
def record? (strict : Bool) (names : List (List String)) : Json → Option (List (Option Json))
  | .object members =>
      if members.all fun (name, _) => name.any fun n => !strict || names.flatten.contains n then
        names.mapM (single? members)
      else none
  | .array items =>
      if items.length ≤ names.length then
        some (items.map some ++ List.replicate (names.length - items.length) none)
      else none
  | _ => none

/-- The name of a variant without data: the name itself, or an object whose only member has that
name and the value `null`. -/
def variant? : Json → Option String
  | .string text => text
  | .object [(name, .null)] => name
  | _ => none

end CallMigration.Json
