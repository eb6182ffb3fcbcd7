import PageHarvest.Filter.Basic
import PageHarvest.Text.Percent
import PageHarvest.Text.Blank
import PageHarvest.Text.Case

/-!
# The standard filters

- `trim` removes white space at both ends.
- `unescape` undoes percent encoding; text that is not percent-encoded UTF-8 becomes `UNESCAPE_ERROR`.
- `lowercase` and `uppercase` change the case of all letters.
- `respace` puts a space in front of every capital, every `&` and every `x` followed by a digit, the first character
  apart.
- `pence` reads all digits as one number, which stays at `2 ^ 64 - 1` once it would exceed it.
-/

namespace PageHarvest.Filter

/-- The value that `unescape` gives for text that is not percent-encoded UTF-8. -/
def unescapeError : Text := "UNESCAPE_ERROR".toList

/-- The text that a percent-encoded text stands for. A `%` without its two digits is looked for first. -/
def unescape (v : Text) : Text :=
  if Percent.wellEscaped (Text.bytes v) then
    match Percent.decodeText? v with
    | some t => t
    | none => unescapeError
  else unescapeError

/-- Does `respace` put a space between other text and a `c` with `rest` behind it? -/
def startsWord (c : Char) (rest : Text) : Bool :=
  c.isUpper || c == '&' || (c == 'x' && rest.head?.any Char.isDigit)

/-- The text with a space in front of each character that starts a word. -/
def spaced : Text → Text
  | [] => []
  | c :: rest => if startsWord c rest then ' ' :: c :: spaced rest else c :: spaced rest

/-- The text with a space in front of each character but the first that starts a word. -/
def respace : Text → Text
  | [] => []
  | c :: rest => c :: spaced rest

/-- The greatest amount that `pence` reports. -/
def maxAmount : Nat := UInt64.size - 1

/-- The number, or the greatest amount if it is smaller. -/
def saturate (n : Nat) : Nat := min n maxAmount

/-- The amount that the digits of a text make up, and the worth of one more digit in front of them. -/
def tally : Text → Nat × Nat
  | [] => (0, 1)
  | c :: rest =>
    let (amount, unit) := tally rest
    if c.isDigit then (saturate (amount + saturate (unit * (c.toNat - '0'.toNat))), saturate (unit * 10))
    else (amount, unit)

/-- The digits of a text as one decimal number. -/
def pence (v : Text) : Text := (toString (tally v).1).toList

/-- The standard filters. -/
def standard : List Filter := [
  ⟨"trim".toList, Text.trim⟩,
  ⟨"unescape".toList, unescape⟩,
  ⟨"lowercase".toList, Text.toLower⟩,
  ⟨"uppercase".toList, Text.toUpper⟩,
  ⟨"respace".toList, respace⟩,
  ⟨"pence".toList, pence⟩]

end PageHarvest.Filter
