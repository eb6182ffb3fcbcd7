import PageHarvest.Text.Normal
import PageHarvest.Url.Domain.Direction
import PageHarvest.Url.Domain.Joiner
import PageHarvest.Url.Domain.Mapping
import PageHarvest.Url.Domain.Ranges
import PageHarvest.Url.Punycode

/-!
# Domain names

A domain name consists of labels with dots between them. A label may be written with characters of any script or, behind
`xn--`, in Punycode; an address has the ASCII form of each. Before that, characters are replaced by the ones that they
stand for, which makes all letters lower-case.
-/

namespace PageHarvest.Url.Domain

/-- May an ASCII character not stand in a domain name? -/
def isForbidden (c : Char) : Bool :=
  c.toNat ≤ 0x20 || c.toNat == 0x7f || c ∈ ['#', '%', '/', ':', '<', '>', '?', '@', '[', '\\', ']', '^', '|']

/-- Is a character ASCII? -/
def isAscii (c : Char) : Bool := c.toNat < Punycode.firstCode

/-- A text with all characters replaced, in normal form; `none` if it holds a disallowed character. -/
def normalize? (t : Text) : Option Text :=
  if t.any isDisallowed then none
  else some (Text.normalize ((t.filter fun c => !isIgnored c).flatMap mapped))

/-- What a label in Punycode begins with. -/
def punycodeMark : Text := ['x', 'n', '-', '-']

/-- The greatest number of characters in a label that is written in Punycode. -/
def maxEncoded : Nat := 1000

/-- The greatest number of characters in a label that is read from Punycode. -/
def maxDecoded : Nat := 2000

/-- The text that a label stands for. Punycode must stand for a text that is normal and not ASCII. -/
def readLabel? (label : Text) : Option Text :=
  if punycodeMark.isPrefixOf label then
    let digits := label.drop punycodeMark.length
    if digits.length > maxDecoded then none
    else (Punycode.decode? digits).filter fun t => !t.all isAscii && normalize? t = some t
  else some label

/-- The ASCII form of the text of a label. -/
def writeLabel? (t : Text) : Option Text :=
  if t.all isAscii then some t
  else if t.length > maxEncoded then none
  else some (punycodeMark ++ Punycode.encode t)

/-- May the text stand as a label? -/
def isLabel (t : Text) : Bool :=
  !(t.head?.any Text.isMark) && joinersFit [] t && !t.any isForbidden

/-- The ASCII form of a domain name in normal form. -/
def write? (name : Text) : Option Text := do
  let labels ← (name.splitOn '.').mapM readLabel?
  let directed := !labels.any isRightToLeft || labels.all isDirected
  if labels.all isLabel && directed then
    return (['.'] : Text).intercalate (← labels.mapM writeLabel?)
  else none

/-- The ASCII form of a domain name given by its bytes. -/
def toAscii? (bytes : List UInt8) : Option Text := ((Text.ofBytes? bytes).bind normalize?).bind write?

end PageHarvest.Url.Domain
