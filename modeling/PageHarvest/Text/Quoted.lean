import PageHarvest.Text.Basic
import PageHarvest.Text.Lookup
import PageHarvest.Text.PrintableRanges

/-!
# Quoted text

`quoted` writes a text between double quotes on one line, `quotedChar` a character between apostrophes. A backslash
and the quote in use are written with a backslash in front; tab, line feed, carriage return and NUL have letters of
their own; a character without a glyph, or one that joins the character in front of it, is written by its number in
hexadecimal.
-/

namespace PageHarvest.Text

/-- Has the character a glyph of its own? -/
def isPrintable (c : Char) : Bool :=
  if c.toNat < 0x7f then 0x20 ≤ c.toNat else !inRanges unprintable c.toNat

/-- Does the character join the grapheme in front of it? -/
def extendsGrapheme (c : Char) : Bool :=
  0x300 ≤ c.toNat && inRanges graphemeExtend c.toNat

/-- A code point by number: `\u`, then the hexadecimal digits in braces. -/
def codePointEscape (c : Char) : Text :=
  "\\u".toList ++ '\x7b' :: (Nat.toDigits 16 c.toNat ++ ['\x7d'])

/-- The form of one character inside quotes of the kind `quote`. -/
def escapeChar (quote : Char) (c : Char) : Text :=
  if c = '\x00' then ['\\', '0']
  else if c = '\t' then ['\\', 't']
  else if c = '\r' then ['\\', 'r']
  else if c = '\n' then ['\\', 'n']
  else if c = '\\' || c = quote then ['\\', c]
  else if extendsGrapheme c || !isPrintable c then codePointEscape c
  else [c]

/-- A character between apostrophes. -/
def quotedChar (c : Char) : Text := '\'' :: (escapeChar '\'' c ++ ['\''])

/-- A text between double quotes. -/
def quoted (t : Text) : Text := '"' :: (t.flatMap (escapeChar '"') ++ ['"'])

end PageHarvest.Text
