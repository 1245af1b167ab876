/-!
# TOML values

The values of a TOML document: texts, numbers, truth values, points in time, arrays and tables. No
setting takes a number with a fraction or a point in time, so of these it is only known that they
are there.

A table remembers how it came to be, because that decides what may still be added to it: a table
written in braces is closed, one opened by a header admits no second header, and a dotted key only
reaches into tables that dotted keys have made. Arrays of tables, which no setting is, are left out.
-/

namespace CallMigration

/-- How a table came to be. -/
inductive TableOrigin where
  /-- It is written in braces. -/
  | inline
  /-- It stands above a table that a header opened. -/
  | implied
  /-- A header opened it. -/
  | header
  /-- It stands above the last name of a dotted key. -/
  | dotted
deriving DecidableEq

/-- A TOML value. -/
inductive Toml where
  | text (s : String)
  /-- A whole number; it has no value where its spelling passes for a number and is none. -/
  | integer (value : Option Int)
  | float
  | boolean (b : Bool)
  /-- A date, a time of day, or both. -/
  | dateTime
  | array (items : List Toml)
  | table (origin : TableOrigin) (entries : List (String × Toml))
deriving Inhabited

namespace Toml

/-- The entries of a table. -/
abbrev Entries := List (String × Toml)

namespace Entries

/-- The value under a name. -/
def find? (entries : Entries) (name : String) : Option Toml := entries.lookup name

/-- The entries with another value under a name that is there. -/
def replace (entries : Entries) (name : String) (value : Toml) : Entries :=
  entries.map fun (n, v) => if n = name then (n, value) else (n, v)

/-- The entries with a value under a new name, if the name is new. -/
def add? (entries : Entries) (name : String) (value : Toml) : Option Entries :=
  match entries.find? name with
  | none => some (entries ++ [(name, value)])
  | some _ => none

/-- Puts a value under a key, whose last name is `name` and whose names before that are given. The
names before it lead through tables that are neither closed nor opened by a header, and the table
that takes the value is the given one or one that dotted keys have made. -/
def assign? (name : String) (value : Toml) (entries : Entries) :
    List String → Option Entries
  | [] => entries.add? name value
  | outer :: path =>
      match entries.find? outer with
      | none =>
          (assign? name value [] path).map fun inner => entries ++ [(outer, table .dotted inner)]
      | some (table .dotted inner) =>
          (assign? name value inner path).map fun inner =>
            entries.replace outer (table .dotted inner)
      | some (table .implied inner) =>
          if path.isEmpty then none
          else (assign? name value inner path).map fun inner =>
            entries.replace outer (table .implied inner)
      | some _ => none

/-- Opens the table of a header, which is new or so far only implied. -/
def openTable? (entries : Entries) : List String → Option Entries
  | [] => none
  | [name] =>
      match entries.find? name with
      | none => some (entries ++ [(name, table .header [])])
      | some (table .implied inner) => some (entries.replace name (table .header inner))
      | some _ => none
  | outer :: path =>
      match entries.find? outer with
      | none =>
          (openTable? [] path).map fun inner => entries ++ [(outer, table .implied inner)]
      | some (table .inline _) => none
      | some (table origin inner) =>
          (openTable? inner path).map fun inner => entries.replace outer (table origin inner)
      | some _ => none

/-- Changes the entries of the table that a path of names leads to. -/
def within? (change : Entries → Option Entries) (entries : Entries) :
    List String → Option Entries
  | [] => change entries
  | outer :: path =>
      match entries.find? outer with
      | some (table origin inner) =>
          (within? change inner path).map fun inner => entries.replace outer (table origin inner)
      | _ => none

end Entries

end Toml

end CallMigration
