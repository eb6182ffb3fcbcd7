import PageHarvest.Yaml.Token.Scalar
import PageHarvest.Yaml.Token.Tag

/-!
# From text to tokens

`Token.ofText?` lists the tokens of a stream, or is `none` if the stream is malformed. Blocks follow from indentation: a
token that begins further to the right than the current block opens a block, one that begins further to the left closes
blocks. A key without `?` is known only when its `:` is met; until then its place is remembered, for one line and 1024
characters at most.
-/

namespace PageHarvest.Yaml

/-- A place at which a key may have begun: the number of tokens in front of it and where it stands. A required key must
turn out to be one. -/
structure KeyPlace where
  tokens : Nat
  required : Bool
  index : Nat
  line : Nat
  column : Nat

/-- A state of the scan. `indents` holds the columns of the blocks around the cursor, the innermost first. `keys` holds
for each pair of brackets around the cursor, and for what is outside of all, where a key may have begun. -/
structure Scan where
  cursor : Cursor
  tokens : Array Token
  indents : List Nat
  keys : List (Option KeyPlace)
  keyAllowed : Bool

namespace Scan

/-- The state in front of a stream. -/
def ofText (t : Text) : Scan :=
  { cursor := .ofText t, tokens := #[], indents := [], keys := [none], keyAllowed := true }

/-- Is the cursor between brackets? -/
def inFlow (s : Scan) : Bool := s.keys.length > 1

/-- The column of the innermost block. -/
def indent? (s : Scan) : Option Nat := s.indents.head?

/-- Is a column to the right of the innermost block? -/
def isDeeper (s : Scan) (column : Nat) : Bool :=
  match s.indent? with
  | some n => n < column
  | none => true

/-- Adds a token at the end. -/
def push (s : Scan) (t : Token) : Scan := { s with tokens := s.tokens.push t }

/-- Moves the cursor. -/
def move (s : Scan) (c : Cursor) : Scan := { s with cursor := c }

/-- Says whether a key may begin behind the last token. -/
def allowKey (s : Scan) (allowed : Bool) : Scan := { s with keyAllowed := allowed }

/-- Forgets where a key may have begun; an error if the key is required. -/
def dropKey? (s : Scan) : Option Scan :=
  match s.keys with
  | some k :: keys => if k.required then none else some { s with keys := none :: keys }
  | _ => some s

/-- Remembers that a key may begin here, if that is allowed. -/
def saveKey? (s : Scan) : Option Scan :=
  if s.keyAllowed then
    s.dropKey?.map fun s =>
      let c := s.cursor
      let required := !s.inFlow && s.indent? == some c.column
      let place : KeyPlace :=
        { tokens := s.tokens.size, required, index := c.index, line := c.line, column := c.column }
      { s with keys := some place :: s.keys.drop 1 }
  else some s

/-- Forgets all places at which a key began too far back; an error if one of the keys is required. -/
def dropStaleKeys? (s : Scan) : Option Scan :=
  let isStale (k : KeyPlace) : Bool := k.line < s.cursor.line || k.index + 1024 < s.cursor.index
  if s.keys.any fun k => k.any fun k => isStale k && k.required then none
  else some { s with keys := s.keys.map fun k => k.filter fun k => !isStale k }

/-- Opens a block at a column unless there is one at it or to the right of it. Its token goes in front of the token with
the given number. -/
def openBlock (s : Scan) (column place : Nat) (t : Token) : Scan :=
  if !s.inFlow && s.isDeeper column then
    { s with indents := column :: s.indents, tokens := s.tokens.insertIdxIfInBounds place t }
  else s

/-- Closes the blocks to the right of a column; all blocks if there is no column. -/
def closeBlocks (column : Option Nat) (s : Scan) : Scan :=
  if s.inFlow then s
  else
    let closed := s.indents.takeWhile fun n => match column with | some m => m < n | none => true
    { s with
      indents := s.indents.drop closed.length
      tokens := s.tokens ++ Array.replicate closed.length .blockEnd }

/-- Moves over white space, comments and line breaks. -/
def skipSpace (s : Scan) : Nat → Scan
  | 0 => s
  | bound + 1 =>
    let c := if s.cursor.column == 0 && s.cursor.sees '\ufeff' then s.cursor.skip 1 else s.cursor
    let tabs := s.inFlow || !s.keyAllowed
    let c := c.skipWhile fun ch => ch == ' ' || (tabs && ch == '\t')
    let c := if c.sees '#' then c.skipWhile fun ch => !isBreakChar ch else c
    if c.seesAny isBreakChar then
      skipSpace { s with cursor := c.skipBreak, keyAllowed := s.keyAllowed || !s.inFlow } bound
    else s.move c

/-! ## Single tokens -/

/-- The end of the stream. -/
def readEnd? (s : Scan) : Option Scan := do
  let s ← (s.closeBlocks none).dropKey?
  return (s.allowKey false).push .streamEnd

/-- A token that begins or ends a document, or a directive. -/
def readOutside? (s : Scan) (t : Token) (behind : Cursor) : Option Scan := do
  let s ← (s.closeBlocks none).dropKey?
  return ((s.allowKey false).push t).move behind

/-- An opening bracket. -/
def readOpening? (s : Scan) (t : Token) : Option Scan := do
  let s ← s.saveKey?
  return (({ s with keys := none :: s.keys }.allowKey true).push t).move (s.cursor.skip 1)

/-- A closing bracket. -/
def readClosing? (s : Scan) (t : Token) : Option Scan := do
  let s ← s.dropKey?
  let keys := if s.inFlow then s.keys.drop 1 else s.keys
  return (({ s with keys }.allowKey false).push t).move (s.cursor.skip 1)

/-- A comma between brackets. -/
def readComma? (s : Scan) : Option Scan := do
  let s ← s.dropKey?
  return ((s.allowKey true).push .flowEntry).move (s.cursor.skip 1)

/-- A dash in front of an item. -/
def readDash? (s : Scan) : Option Scan := do
  if !s.inFlow && !s.keyAllowed then none
  else
    let s ← ((s.push .blockEntry).openBlock s.cursor.column s.tokens.size .blockSequenceStart).dropKey?
    return (s.allowKey true).move (s.cursor.skip 1)

/-- A question mark in front of a key. -/
def readQuestion? (s : Scan) : Option Scan := do
  if !s.inFlow && !s.keyAllowed then none
  else
    let s ← ((s.push .key).openBlock s.cursor.column s.tokens.size .blockMappingStart).dropKey?
    return (s.allowKey !s.inFlow).move (s.cursor.skip 1)

/-- A colon in front of a value. -/
def readColon? (s : Scan) : Option Scan := do
  match s.keys with
  | some k :: keys =>
    let s := { s with keys := none :: keys, tokens := s.tokens.insertIdxIfInBounds k.tokens .key }
    let s := s.openBlock k.column k.tokens .blockMappingStart
    return ((s.allowKey false).push .value).move (s.cursor.skip 1)
  | _ =>
    if !s.inFlow && !s.keyAllowed then none
    else
      let s := (s.push .value).openBlock s.cursor.column s.tokens.size .blockMappingStart
      return (s.allowKey !s.inFlow).move (s.cursor.skip 1)

/-- An anchor or an alias. -/
def readName? (s : Scan) (t : Text → Token) : Option Scan := do
  let s ← s.saveKey?
  let (name, behind) ← (s.cursor.skip 1).readAnchor?
  return ((s.allowKey false).push (t name)).move behind

/-- A tag. -/
def readTag? (s : Scan) : Option Scan := do
  let s ← s.saveKey?
  let (t, behind) ← s.cursor.readTag? s.inFlow
  return ((s.allowKey false).push t).move behind

/-- A block scalar. -/
def readBlock? (s : Scan) (style : Style) : Option Scan := do
  let s ← s.dropKey?
  let (text, behind) ← (s.cursor.skip 1).readBlock? (style = .literal) s.indent?
  return ((s.allowKey true).push (.scalar style text)).move behind

/-- A quoted scalar. -/
def readQuoted? (s : Scan) (style : Style) : Option Scan := do
  let s ← s.saveKey?
  let (text, behind) ← Cursor.readQuoted? (style = .singleQuoted) (s.cursor.rest.length + 1) [] (s.cursor.skip 1)
  return ((s.allowKey false).push (.scalar style text)).move behind

/-- A plain scalar. -/
def readPlain? (s : Scan) : Option Scan := do
  let s ← s.saveKey?
  let indent := match s.indent? with | some n => n + 1 | none => 0
  let (text, broken, behind) ← Cursor.readPlain? s.inFlow indent (s.cursor.rest.length + 1) [] .none s.cursor
  return ((s.allowKey broken).push (.scalar .plain text)).move behind

/-- May a plain scalar not begin with the character? -/
def isIndicator (ch : Char) : Bool :=
  ch ∈ ['-', '?', ':', ',', '[', ']', '\x7b', '\x7d', '#', '&', '*', '!', '|', '>', '\'', '"', '%', '@', '\x60']

/-- Reads the token at the cursor, which is not the end. -/
def readToken? (s : Scan) (ch : Char) : Option Scan :=
  let c := s.cursor
  let endsWord := c.endsWordAt 1
  if c.column == 0 && ch == '%' then do
    let (t, behind) ← (c.skip 1).readDirective?
    s.readOutside? t behind
  else if c.seesMark '-' then s.readOutside? .documentStart (c.skip 3)
  else if c.seesMark '.' then s.readOutside? .documentEnd (c.skip 3)
  else if ch == '[' then s.readOpening? .flowSequenceStart
  else if ch == '\x7b' then s.readOpening? .flowMappingStart
  else if ch == ']' then s.readClosing? .flowSequenceEnd
  else if ch == '\x7d' then s.readClosing? .flowMappingEnd
  else if ch == ',' then s.readComma?
  else if ch == '-' && endsWord then s.readDash?
  else if ch == '?' && (s.inFlow || endsWord) then s.readQuestion?
  else if ch == ':' && (s.inFlow || endsWord) then s.readColon?
  else if ch == '*' then s.readName? .alias
  else if ch == '&' then s.readName? .anchor
  else if ch == '!' then s.readTag?
  else if ch == '|' && !s.inFlow then s.readBlock? .literal
  else if ch == '>' && !s.inFlow then s.readBlock? .folded
  else if ch == '\'' then s.readQuoted? .singleQuoted
  else if ch == '"' then s.readQuoted? .doubleQuoted
  else if (!isIndicator ch && !isBlankChar ch) || (ch == '-' && !(c.peekAt 1).any isBlankChar) ||
      (!s.inFlow && (ch == '?' || ch == ':')) then s.readPlain?
  else none

/-- Reads tokens up to the end of the stream. -/
def run? : Nat → Scan → Option (Array Token)
  | 0, _ => none
  | bound + 1, s =>
    match (s.skipSpace (s.cursor.rest.length + 1)).dropStaleKeys? with
    | none => none
    | some s =>
      match s.cursor.peek with
      | none => s.readEnd?.map Scan.tokens
      | some ch =>
        match (s.closeBlocks (some s.cursor.column)).readToken? ch with
        | none => none
        | some s => run? bound s

end Scan

/-- The tokens of a stream, or `none` if it is malformed. -/
def Token.ofText? (t : Text) : Option (List Token) :=
  if t.all isAllowed then (Scan.run? (t.length + 1) (.ofText t)).map Array.toList else none

end PageHarvest.Yaml
