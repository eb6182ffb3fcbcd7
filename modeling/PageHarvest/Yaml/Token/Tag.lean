import PageHarvest.Text.Digits
import PageHarvest.Text.Percent
import PageHarvest.Yaml.Cursor
import PageHarvest.Yaml.Token

/-!
# Directives, anchors and tags
-/

namespace PageHarvest.Yaml.Cursor

/-- Reads the characters of a class. -/
def readWhile (c : Cursor) (class? : Char → Bool) : Text × Cursor := (c.rest.takeWhile class?, c.skipWhile class?)

/-! ## Tags -/

/-- The punctuation that a tag may hold. -/
def isTagMark (c : Char) : Bool :=
  c ∈ [';', '/', '?', ':', '@', '&', '=', '+', '$', '.', '%', '!', '~', '*', '\'', '(', ')']

/-- May a character stand in a tag, be it verbatim or not? -/
def isTagChar (verbatim : Bool) (c : Char) : Bool :=
  isNameChar c || isTagMark c || (verbatim && c ∈ [',', '[', ']'])

/-- The text that the characters of a tag stand for: percent-encoded ones must be complete and valid. -/
def decodeTag? (t : Text) : Option Text := (Percent.decode? (Text.bytes t)).bind Text.ofBytes?

/-- Reads the handle of a tag: `!`, and a name with another `!` behind it if there is one. -/
def readHandle? (c : Cursor) (directive : Bool) : Option (Text × Cursor) :=
  if c.sees '!' then
    let (name, behind) := (c.skip 1).readWhile isNameChar
    if behind.sees '!' then some ('!' :: name ++ ['!'], behind.skip 1)
    else if directive && name ≠ [] then none
    else some ('!' :: name, behind)
  else none

/-- Reads a tag at its `!`. -/
def readTag? (inFlow : Bool) (c : Cursor) : Option (Token × Cursor) := do
  let (token, behind) ←
    if c.peekAt 1 == some '<' then do
      let (raw, behind) := (c.skip 2).readWhile (isTagChar true)
      let suffix ← decodeTag? raw
      if raw ≠ [] ∧ behind.sees '>' then some (Token.tag [] suffix, behind.skip 1) else none
    else do
      let (handle, behind) ← c.readHandle? false
      let (raw, behind) := behind.readWhile (isTagChar false)
      let suffix ← decodeTag? raw
      if handle.length > 1 ∧ handle.getLast? = some '!' then
        if raw ≠ [] then some (Token.tag handle suffix, behind) else none
      else
        let suffix := handle.drop 1 ++ suffix
        some (if suffix = [] then Token.tag [] ['!'] else Token.tag ['!'] suffix, behind)
  if behind.endsWordAt 0 || (inFlow && behind.sees ',') then some (token, behind) else none

/-! ## Anchors and aliases -/

/-- Reads the name of an anchor or an alias behind its indicator. -/
def readAnchor? (c : Cursor) : Option (Text × Cursor) :=
  let (name, behind) := c.readWhile isNameChar
  if name ≠ [] ∧ (behind.endsWordAt 0 ∨ behind.seesAny (· ∈ ['?', ':', ',', ']', '\x7d', '%', '@', '\x60'])) then
    some (name, behind)
  else none

/-! ## Directives -/

/-- Reads a part of a version number: up to nine digits. -/
def readVersionPart? (c : Cursor) : Option (Nat × Cursor) :=
  let (digits, behind) := c.readWhile Char.isDigit
  if digits ≠ [] ∧ digits.length ≤ 9 then
    (Text.digits? 10 digits).map (·, behind)
  else none

/-- Reads a directive behind its `%`, to the end of its line. -/
def readDirective? (c : Cursor) : Option (Token × Cursor) := do
  let (name, c) := c.readWhile isNameChar
  if name = [] || !c.endsWordAt 0 then none
  else if name = "YAML".toList then
    let (major, c) ← (c.skipWhile isBlankChar).readVersionPart?
    if c.sees '.' then
      let (minor, c) ← (c.skip 1).readVersionPart?
      return (.version major minor, ← c.finishLine?)
    else none
  else if name = "TAG".toList then
    let (handle, c) ← (c.skipWhile isBlankChar).readHandle? true
    if c.seesAny isBlankChar then
      let (raw, c) := (c.skipWhile isBlankChar).readWhile (isTagChar true)
      let start ← decodeTag? raw
      if raw ≠ [] ∧ c.endsWordAt 0 then return (.tagPrefix handle start, ← c.finishLine?) else none
    else none
  else none

end PageHarvest.Yaml.Cursor
