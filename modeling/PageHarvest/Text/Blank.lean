import PageHarvest.Text.Basic

/-!
# White space

Two classes of white space are used. `isBlank` is the ASCII class that matching may skip. `isSpace` is the Unicode
property `White_Space`, which names must not contain and which `trim` removes at both ends of a text.
-/

namespace PageHarvest.Text

/-- ASCII white space: space, tab, line feed, form feed, carriage return. The vertical tab is not in it. -/
def isBlank (c : Char) : Bool :=
  c == ' ' || c == '\t' || c == '\n' || c == '\x0c' || c == '\r'

/-- Unicode white space, the property `White_Space`. -/
def isSpace (c : Char) : Bool :=
  let n := c.toNat
  (9 ≤ n && n ≤ 13) || n == 0x20 || n == 0x85 || n == 0xa0 || n == 0x1680 || (0x2000 ≤ n && n ≤ 0x200a) ||
    n == 0x2028 || n == 0x2029 || n == 0x202f || n == 0x205f || n == 0x3000

/-- A text without any character but ASCII white space. -/
def isBlankText (t : Text) : Bool := t.all isBlank

/-- The text without the Unicode white space at its beginning. -/
def trimStart (t : Text) : Text := t.dropWhile isSpace

/-- The text without the Unicode white space at its end. -/
def trimEnd (t : Text) : Text := (t.reverse.dropWhile isSpace).reverse

/-- The text without the Unicode white space at its two ends. -/
def trim (t : Text) : Text := trimEnd (trimStart t)

end PageHarvest.Text
