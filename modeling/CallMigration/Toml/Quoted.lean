import CallMigration.Text.HexDigit
import CallMigration.Toml

/-!
# Quoted texts in TOML

Texts are quoted in four ways: by one quote or by three, and by double quotes, between which a
backslash is an escape, or by single ones, between which it is not. A text in one quote ends with
its line; one in three may go over many, and a line break right after its opening does not belong
to it.
-/

namespace CallMigration.Toml

/-- Whether a character may stand for itself in texts and comments. -/
def isPlain (c : Char) : Bool := c == '\t' || (0x20 ≤ c.val && c.val != 0x7F)

/-- The character of a code given in hexadecimal digits, if the code is that of a character. -/
def codeChar? (digits : List Char) : Option Char := do
  let code ← digits.foldlM (fun n c => (Text.hexDigit? c).map (n * 16 + ·)) 0
  if code < 0xD800 ∨ (0xDFFF < code ∧ code < 0x110000) then some (Char.ofNat code) else none

/-- The character of a one-letter escape. -/
def letterEscape? : Char → Option Char
  | 'b' => some '\x08'
  | 't' => some '\t'
  | 'n' => some '\n'
  | 'f' => some '\x0c'
  | 'r' => some '\r'
  | 'e' => some '\x1b'
  | '"' => some '"'
  | '\\' => some '\\'
  | _ => none

/-- The number of hexadecimal digits that follow the letter of an escape. -/
def codeLength : Char → Nat
  | 'x' => 2
  | 'u' => 4
  | 'U' => 8
  | _ => 0

/-- Reads an escape after its backslash: the character, and what follows. -/
def escape? : List Char → Option (Char × List Char)
  | [] => none
  | c :: rest =>
      match codeLength c with
      | 0 => (letterEscape? c).map fun c => (c, rest)
      | n =>
          if n ≤ rest.length then (codeChar? (rest.take n)).map fun c => (c, rest.drop n)
          else none

/-- The text after a line break, if it begins with one. -/
def lineBreak? : List Char → Option (List Char)
  | '\n' :: rest => some rest
  | '\r' :: '\n' :: rest => some rest
  | _ => none

/-- The text without a line break at its beginning. -/
def skipLineBreak (cs : List Char) : List Char := (lineBreak? cs).getD cs

/-- Whether a character is a blank within a line. -/
def isSpace (c : Char) : Bool := c == ' ' || c == '\t'

/-- The text without the blanks and line breaks at its beginning. -/
def skipBlankLines : List Char → List Char
  | '\r' :: '\n' :: rest => skipBlankLines rest
  | c :: rest => if isSpace c ∨ c = '\n' then skipBlankLines rest else c :: rest
  | [] => []

/-- The text after a backslash at the end of a line and the blanks and line breaks that follow it,
if there is nothing but blanks between the backslash and the end of the line. -/
def continuation? (cs : List Char) : Option (List Char) :=
  (lineBreak? (cs.dropWhile isSpace)).map skipBlankLines

/-- A text in one quote, after the opening quote; `read` is what has been read, last character
first. -/
def singleLine? (quote : Char) : Nat → List Char → List Char → Option (String × List Char)
  | 0, _, _ => none
  | _ + 1, _, [] => none
  | fuel + 1, read, c :: rest =>
      if c = quote then some (String.ofList read.reverse, rest)
      else if c = '\\' ∧ quote = '"' then
        (escape? rest).bind fun (e, rest) => singleLine? quote fuel (e :: read) rest
      else if isPlain c then singleLine? quote fuel (c :: read) rest
      else none

/-- A text in three quotes, after the opening quotes. Up to two quotes may stand before the three
that close it; line breaks stay as they are written. -/
def multiLine? (quote : Char) : Nat → List Char → List Char → Option (String × List Char)
  | 0, _, _ => none
  | _ + 1, _, [] => none
  | fuel + 1, read, c :: rest =>
      if c = quote ∧ [quote, quote].isPrefixOf rest then
        let quotes := (c :: rest).takeWhile (· = quote)
        if quotes.length ≤ 5 then
          some (String.ofList (quotes.drop 3 ++ read).reverse, (c :: rest).drop quotes.length)
        else none
      else if c = '\\' ∧ quote = '"' then
        match continuation? rest with
        | some rest => multiLine? quote fuel read rest
        | none => (escape? rest).bind fun (e, rest) => multiLine? quote fuel (e :: read) rest
      else
        match c, rest with
        | '\r', '\n' :: rest => multiLine? quote fuel ('\n' :: '\r' :: read) rest
        | _, _ => if c = '\n' ∨ isPlain c then multiLine? quote fuel (c :: read) rest else none

/-- Reads a quoted text within one line. -/
def lineText? : List Char → Option (String × List Char)
  | c :: rest =>
      if c = '"' ∨ c = '\'' then singleLine? c (rest.length + 1) [] rest else none
  | [] => none

/-- Reads a quoted text. -/
def text? : List Char → Option (String × List Char)
  | '"' :: '"' :: '"' :: rest => multiLine? '"' (rest.length + 1) [] (skipLineBreak rest)
  | '\'' :: '\'' :: '\'' :: rest => multiLine? '\'' (rest.length + 1) [] (skipLineBreak rest)
  | cs => lineText? cs

end CallMigration.Toml
