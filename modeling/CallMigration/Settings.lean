import CallMigration.Text.Trim

/-!
# Settings

Three settings govern inlining: the prefixes that select APIs, whether calls with comments are left
alone, and whether fixes must be seen to compile. Flags of the form `KEY=VALUE` change them one at
a time; a flag that is not understood changes nothing.
-/

namespace CallMigration

/-- A set of prefixes, kept in increasing order. -/
abbrev PrefixSet := List String

namespace PrefixSet

/-- The set with one more member. -/
def insert (p : String) : PrefixSet → PrefixSet
  | [] => [p]
  | q :: rest => if p < q then p :: q :: rest else if p = q then q :: rest else q :: insert p rest

/-- The set with further members; empty texts are left out. -/
def insertAll (set : PrefixSet) (ps : List String) : PrefixSet :=
  (ps.filter (· ≠ "")).foldl (fun set p => insert p set) set

theorem mem_insert {p x : String} {set : PrefixSet} : x ∈ insert p set ↔ x = p ∨ x ∈ set := by
  induction set with
  | nil => simp [insert]
  | cons q rest ih => grind [insert]

theorem mem_foldl_insert {ps : List String} {x : String} {set : PrefixSet} :
    x ∈ ps.foldl (fun set p => insert p set) set ↔ x ∈ set ∨ x ∈ ps := by
  induction ps generalizing set with
  | nil => simp
  | cons p ps ih =>
      rw [List.foldl_cons, ih, mem_insert, List.mem_cons]
      constructor
      · rintro ((h | h) | h) <;> simp [h]
      · rintro (h | h | h) <;> simp [h]

/-- The members are those there were and the new ones that are not empty. -/
theorem mem_insertAll {ps : List String} {x : String} {set : PrefixSet} :
    x ∈ insertAll set ps ↔ x ∈ set ∨ (x ∈ ps ∧ x ≠ "") := by
  simp [insertAll, mem_foldl_insert]

end PrefixSet

/-- What governs inlining. -/
structure Settings where
  /-- The prefixes that select APIs; none selects all. -/
  prefixes : PrefixSet
  /-- Whether calls with comments are left alone. -/
  skipComments : Bool
  /-- Whether a fix must be seen to compile. -/
  checkFixCompiles : Bool
deriving DecidableEq, Inhabited

/-- Why a flag is not understood. -/
inductive FlagError where
  /-- The flag has no `=`. -/
  | notKeyValue (flag : String)
  /-- No setting has that key. -/
  | unknownKey (key : String)
  /-- The value of a yes-or-no setting is neither `true` nor `false`. -/
  | notBoolean (key value : String)
deriving DecidableEq

/-- The wording of a flag error. -/
def FlagError.message : FlagError → String
  | .notKeyValue flag => "invalid configuration: flag `" ++ flag ++ "` is not KEY=VALUE"
  | .unknownKey key => "invalid configuration: unknown flag `" ++ key ++ "`"
  | .notBoolean key value =>
      "invalid configuration: flag `" ++ key ++ "` expects true or false, got `" ++ value ++ "`"

namespace Settings

/-- The settings where nothing else is said. -/
def default : Settings := ⟨[], true, false⟩

/-- The key of the prefixes. -/
def prefixKey : String := "InlineMe:Prefix"

/-- The key of the setting for calls with comments. -/
def skipCommentsKey : String := "InlineMe:SkipInliningsWithComments"

/-- The key of the setting for fixes that must compile. -/
def checkFixCompilesKey : String := "InlineMe:CheckFixCompiles"

/-- Adds prefixes; empty ones are left out. -/
def withPrefixes (s : Settings) (ps : List String) : Settings :=
  { s with prefixes := s.prefixes.insertAll ps }

/-- Reads `true` or `false`, in any case and between blanks. -/
def readBool (key value : List Char) : Except FlagError Bool :=
  let lower := (Text.trim value).map Char.toLower
  if lower = "true".toList then .ok true
  else if lower = "false".toList then .ok false
  else .error (.notBoolean (String.ofList key) (String.ofList lower))

/-- The set of prefixes that a comma-separated list names. -/
def readPrefixes (value : List Char) : PrefixSet :=
  PrefixSet.insertAll [] ((Text.splitOn ',' value).map fun part => String.ofList (Text.trim part))

/-- The settings changed by a flag. -/
def applyFlag (s : Settings) (flag : String) : Except FlagError Settings :=
  match Text.splitOnce? '=' flag.toList with
  | none => .error (.notKeyValue flag)
  | some (key, value) =>
      let name := String.ofList (Text.trim key)
      if name = prefixKey then .ok { s with prefixes := readPrefixes value }
      else if name = skipCommentsKey then
        match readBool key value with
        | .ok b => .ok { s with skipComments := b }
        | .error cause => .error cause
      else if name = checkFixCompilesKey then
        match readBool key value with
        | .ok b => .ok { s with checkFixCompiles := b }
        | .error cause => .error cause
      else .error (.unknownKey name)

/-- The settings changed by flags, in order; the first flag that is not understood is reported. -/
def applyFlags (s : Settings) : List String → Except FlagError Settings
  | [] => .ok s
  | flag :: flags =>
      match s.applyFlag flag with
      | .ok changed => changed.applyFlags flags
      | .error cause => .error cause

/-- Changes settings in place by a flag. What is done before the flag is found wrong stays done. -/
def change (flag : String) : ExceptT FlagError (StateM Settings) Unit := do
  match Text.splitOnce? '=' flag.toList with
  | none => throw (.notKeyValue flag)
  | some (key, value) =>
      let name := String.ofList (Text.trim key)
      if name = prefixKey then modify fun s => { s with prefixes := readPrefixes value }
      else if name = skipCommentsKey then
        let skip ← MonadExcept.ofExcept (readBool key value)
        modify fun s => { s with skipComments := skip }
      else if name = checkFixCompilesKey then
        let check ← MonadExcept.ofExcept (readBool key value)
        modify fun s => { s with checkFixCompiles := check }
      else throw (.unknownKey name)

/-- The settings that flags alone give. -/
def ofFlags (flags : List String) : Except FlagError Settings := default.applyFlags flags

end Settings

end CallMigration
