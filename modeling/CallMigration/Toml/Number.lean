import CallMigration.Text.HexDigit
import CallMigration.Text.Trim

/-!
# Numbers in TOML

A whole number is written in decimal digits, with or without a sign and without a leading zero, or
without a sign in another base after `0x`, `0o` or `0b`. A number with a fraction or an exponent is
written in decimal digits as well. Underscores may stand between digits.

Only what tells the kinds of numbers apart is looked at here. Some spellings pass for a whole number
without being one, such as `0x` without digits; they are numbers without a value.
-/

namespace CallMigration.Toml

/-- The value of digits in a base. -/
def digitsValue? (base : Nat) (digits : List Char) : Option Nat :=
  digits.foldlM (fun n c =>
    (Text.hexDigit? c).bind fun d => if d < base then some (n * base + d) else none) 0

/-- The value of digits in a base, of which there must be one. -/
def natural? (base : Nat) (digits : List Char) : Option Nat :=
  if digits.isEmpty then none else digitsValue? base digits

/-- The value of decimal digits with or without a sign. -/
def signed? : List Char → Option Int
  | '+' :: digits => (natural? 10 digits).map Int.ofNat
  | '-' :: digits => (natural? 10 digits).map fun n => -(n : Int)
  | digits => (natural? 10 digits).map Int.ofNat

/-- The text without a sign at its beginning. -/
def withoutSign : List Char → List Char
  | '+' :: rest => rest
  | '-' :: rest => rest
  | cs => cs

/-- A spelling without its underscores. -/
def withoutUnderscores (cs : List Char) : List Char := cs.filter (· ≠ '_')

/-- Whether every underscore of the rest of a number stands between digits; `after` says whether one
may come next. -/
def underscoresFitAfter (isDigit : Char → Bool) (after : Bool) : List Char → Bool
  | [] => true
  | c :: rest =>
      if c = '_' then
        after && rest.head?.any isDigit && underscoresFitAfter isDigit false rest
      else underscoresFitAfter isDigit (isDigit c) rest

/-- Whether every underscore stands between digits. The first character counts as a digit here, even
if it is a sign. -/
def underscoresFit (isDigit : Char → Bool) : List Char → Bool
  | [] => true
  | c :: rest => c ≠ '_' && underscoresFitAfter isDigit true rest

/-- Whether a character is a digit in base sixteen. -/
def isHexDigit (c : Char) : Bool := (Text.hexDigit? c).isSome

/-- The digits of a decimal number at the beginning of a text, with underscores. -/
def digitRun (cs : List Char) : List Char := cs.takeWhile fun c => c.isDigit || c == '_'

/-- The text after a run of digits, of which there must be one. -/
def afterDigits? (cs : List Char) : Option (List Char) :=
  let run := digitRun cs
  if run.any Char.isDigit then some (cs.drop run.length) else none

/-- The text after a run of digits that has no leading zero. -/
def afterWhole? (cs : List Char) : Option (List Char) :=
  let run := digitRun cs
  if run.head? = some '0' ∧ 1 < run.countP Char.isDigit then none else afterDigits? cs

/-- The text after a fraction, if it begins with one. -/
def afterPoint? : List Char → Option (List Char)
  | '.' :: rest => afterDigits? rest
  | rest => some rest

/-- The text after an exponent, if it begins with one. -/
def afterExponent? : List Char → Option (List Char)
  | [] => some []
  | c :: rest => if c = 'e' ∨ c = 'E' then afterDigits? (withoutSign rest) else some (c :: rest)

/-- Whether a character begins a fraction or an exponent. -/
def beginsPart (c : Char) : Bool := c == '.' || c == 'e' || c == 'E'

/-- Whether a spelling is that of a number with a fraction or an exponent. -/
def isFloat (cs : List Char) : Bool :=
  let digits := withoutSign cs
  ["inf".toList, "nan".toList].contains digits
    || cs.any beginsPart
      && (do afterExponent? (← afterPoint? (← afterWhole? digits))) == some []
      && underscoresFit Char.isDigit cs

/-- The whole number in a given base that digits spell, with its value if they have one. -/
def inBase? (base : Nat) (digits : List Char) : Option (Option Int) :=
  let bare := withoutUnderscores digits
  if underscoresFit isHexDigit digits && (digitsValue? base bare).isSome then
    some ((natural? base bare).map Int.ofNat)
  else none

/-- The decimal whole number that a text spells, with its value if it has one. Behind the first
underscore only the neighbours of underscores are looked at. -/
def decimal? (cs : List Char) : Option (Option Int) :=
  let digits := withoutSign cs
  match digits.dropWhile Char.isDigit with
  | [] =>
      if digits = ['0'] ∨ (digits ≠ [] ∧ digits.head? ≠ some '0') then some (signed? cs) else none
  | '_' :: rest =>
      if digits.head? ≠ some '0' && underscoresFit isHexDigit cs && !rest.any beginsPart then
        some (signed? (withoutUnderscores cs))
      else none
  | _ => none

/-- The whole number that a text spells, with its value if it has one. -/
def integer? : List Char → Option (Option Int)
  | '0' :: 'x' :: digits => inBase? 16 digits
  | '0' :: 'o' :: digits => inBase? 8 digits
  | '0' :: 'b' :: digits => inBase? 2 digits
  | cs => decimal? cs

end CallMigration.Toml
