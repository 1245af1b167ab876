/-!
# Dates and times in TOML

A date is written `YYYY-MM-DD`, a time of day `HH:MM` with optional seconds and a fraction of these.
A date with a time after `T` or one blank may end with its distance from the zero meridian.
-/

namespace CallMigration.Toml

/-- Reads a given number of digits that no further digit follows: their value, and what follows. -/
def fixedDigits? (count : Nat) (cs : List Char) : Option (Nat × List Char) :=
  let digits := cs.takeWhile Char.isDigit
  if digits.length = count then
    some (digits.foldl (fun n c => n * 10 + (c.toNat - '0'.toNat)) 0, cs.drop count)
  else none

/-- Reads one of some signs. -/
def sign? (signs : List Char) : List Char → Option (List Char)
  | c :: rest => if signs.contains c then some rest else none
  | [] => none

/-- Whether a year has a day more than others. -/
def isLeapYear (year : Nat) : Bool :=
  year % 4 == 0 && (year % 100 != 0 || year % 400 == 0)

/-- The number of days of a month; there are none in a month that does not exist. -/
def daysIn (year month : Nat) : Nat :=
  match month with
  | 2 => if isLeapYear year then 29 else 28
  | 4 | 6 | 9 | 11 => 30
  | 1 | 3 | 5 | 7 | 8 | 10 | 12 => 31
  | _ => 0

/-- The text after a date, if it begins with one. -/
def afterDate? (cs : List Char) : Option (List Char) := do
  let (year, cs) ← fixedDigits? 4 cs
  let (month, cs) ← fixedDigits? 2 (← sign? ['-'] cs)
  let (day, cs) ← fixedDigits? 2 (← sign? ['-'] cs)
  if 1 ≤ day ∧ day ≤ daysIn year month then some cs else none

/-- The text after hours and minutes, if it begins with them. -/
def afterMinutes? (cs : List Char) : Option (List Char) := do
  let (hour, cs) ← fixedDigits? 2 cs
  let (minute, cs) ← fixedDigits? 2 (← sign? [':'] cs)
  if hour ≤ 23 ∧ minute ≤ 59 then some cs else none

/-- The text after a fraction of a second, if it begins with one. -/
def afterFraction? : List Char → Option (List Char)
  | '.' :: c :: rest => if c.isDigit then some (rest.dropWhile Char.isDigit) else none
  | '.' :: [] => none
  | rest => some rest

/-- The text after a time of day, if it begins with one; a minute may have a leap second. -/
def afterTime? (cs : List Char) : Option (List Char) := do
  match ← afterMinutes? cs with
  | ':' :: cs =>
      let (second, cs) ← fixedDigits? 2 cs
      if second ≤ 60 then afterFraction? cs else none
  | cs => some cs

/-- Whether a text is the distance from the zero meridian, or nothing. -/
def isOffset : List Char → Bool
  | [] => true
  | ['Z'] => true
  | ['z'] => true
  | cs => ((sign? ['+', '-'] cs).bind afterMinutes?) == some []

/-- Whether a text is a date, a time of day, or a date with a time. -/
def isDateTime (cs : List Char) : Bool :=
  match afterDate? cs with
  | some [] => true
  | some rest => ((sign? ['T', 't', ' '] rest).bind afterTime?).any isOffset
  | none => afterTime? cs == some []

end CallMigration.Toml
