import PageHarvest.Text.Basic

/-!
# Places in a YAML stream

A `Cursor` is a place in a stream: what follows it, how many characters precede it, and its line and column.
-/

namespace PageHarvest.Yaml

/-- May a character stand in a stream? -/
def isAllowed (c : Char) : Bool :=
  let n := c.toNat
  n == 9 || n == 10 || n == 13 || (0x20 ≤ n && n ≤ 0x7e) || n == 0x85 || (0xa0 ≤ n && n ≤ 0xfffd) || 0x10000 ≤ n

/-- Is a character a space or a tab? -/
def isBlankChar (c : Char) : Bool := c == ' ' || c == '\t'

/-- Is a character a line break? -/
def isBreakChar (c : Char) : Bool := c == '\n' || c == '\r' || c == '\x85' || c == '\u2028' || c == '\u2029'

/-- Is a character a letter, a digit, a dash or an underscore, as names have them? -/
def isNameChar (c : Char) : Bool := c.isAlphanum || c == '-' || c == '_'

/-- A place in a stream. -/
structure Cursor where
  rest : Text
  index : Nat
  line : Nat
  column : Nat

namespace Cursor

/-- The beginning of a stream, behind a byte order mark. -/
def ofText (t : Text) : Cursor :=
  { rest := match t with | '\ufeff' :: t => t | t => t, index := 0, line := 0, column := 0 }

/-- The character at the cursor. -/
def peek (c : Cursor) : Option Char := c.rest.head?

/-- The character `n` places behind the cursor. -/
def peekAt (c : Cursor) (n : Nat) : Option Char := c.rest[n]?

/-- Does the character stand at the cursor? -/
def sees (c : Cursor) (ch : Char) : Bool := c.peek == some ch

/-- Does a character of the class stand at the cursor? -/
def seesAny (c : Cursor) (class? : Char → Bool) : Bool := c.peek.any class?

/-- Has the stream ended? -/
def atEnd (c : Cursor) : Bool := c.rest.isEmpty

/-- Is there a blank, a break or the end `n` places behind the cursor? -/
def endsWordAt (c : Cursor) (n : Nat) : Bool :=
  match c.peekAt n with
  | none => true
  | some ch => isBlankChar ch || isBreakChar ch

/-- Is there a break or the end at the cursor? -/
def endsLine (c : Cursor) : Bool := c.atEnd || c.seesAny isBreakChar

/-- Moves over characters of one line. -/
def skip (c : Cursor) (n : Nat) : Cursor :=
  { c with rest := c.rest.drop n, index := c.index + n, column := c.column + n }

/-- Moves over all characters of a class in a line. -/
def skipWhile (c : Cursor) (class? : Char → Bool) : Cursor :=
  c.skip (c.rest.takeWhile class?).length

/-- Moves over a line break. -/
def skipBreak (c : Cursor) : Cursor :=
  let n := match c.rest with | '\r' :: '\n' :: _ => 2 | _ => 1
  { rest := c.rest.drop n, index := c.index + n, line := c.line + 1, column := 0 }

/-- Reads a line break: what it stands for in a scalar, and the place behind it. Nothing is read at the end. -/
def readBreak (c : Cursor) : Text × Cursor :=
  match c.rest with
  | [] => ([], c)
  | ch :: _ =>
    if ch == '\u2028' || ch == '\u2029' then ([ch], c.skipBreak)
    else if isBreakChar ch then (['\n'], c.skipBreak)
    else ([], c)

/-- Is there a line of three dashes or of three dots at the cursor? -/
def seesMark (c : Cursor) (ch : Char) : Bool :=
  c.column == 0 && c.rest.take 3 == [ch, ch, ch] && c.endsWordAt 3

/-- Moves over blanks and a comment to the end of the line and over its break. Other text is an error. -/
def finishLine? (c : Cursor) : Option Cursor :=
  let c := c.skipWhile isBlankChar
  let c := if c.sees '#' then c.skipWhile fun ch => !isBreakChar ch else c
  if c.atEnd then some c else if c.endsLine then some c.skipBreak else none

end Cursor

end PageHarvest.Yaml
