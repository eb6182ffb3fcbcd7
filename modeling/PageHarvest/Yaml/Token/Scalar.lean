import PageHarvest.Text.Digits
import PageHarvest.Yaml.Cursor
import PageHarvest.Yaml.Token

/-!
# Scalars

Plain and quoted scalars may run over several lines: a single break becomes a space, and of several breaks the first
one is left out. Block scalars keep their breaks (`|`) or fold them (`>`), and an indicator says what becomes of those
at the end. All loops carry a bound on their number of rounds; a round reads at least one character, so the length of
the stream is enough.
-/

namespace PageHarvest.Yaml.Cursor

/-- White space inside a scalar: blanks of one line, or the first break and the breaks behind it. -/
structure Gap where
  blanks : Text
  first : Text
  more : Text
  broken : Bool

namespace Gap

/-- No white space. -/
def none : Gap := ⟨[], [], [], false⟩

/-- What white space inside a scalar stands for. -/
def fold (g : Gap) : Text :=
  if g.broken then
    if g.first = ['\n'] then (if g.more = [] then [' '] else g.more) else g.first ++ g.more
  else g.blanks

end Gap

/-- Reads white space. A tab must not indent a line to less than `indent` columns. -/
def readGap? (indent : Nat) : Nat → Gap → Cursor → Option (Gap × Cursor)
  | 0, _, _ => Option.none
  | bound + 1, g, c =>
    match c.peek with
    | some ch =>
      if isBlankChar ch then
        if g.broken && decide (c.column < indent) && ch == '\t' then Option.none
        else readGap? indent bound (if g.broken then g else { g with blanks := g.blanks ++ [ch] }) (c.skip 1)
      else if isBreakChar ch then
        let (line, behind) := c.readBreak
        if g.broken then readGap? indent bound { g with more := g.more ++ line } behind
        else readGap? indent bound { g with first := line, broken := true } behind
      else some (g, c)
    | Option.none => some (g, c)

/-! ## Quoted scalars -/

/-- The character that a letter behind a backslash stands for. -/
def escaped? (ch : Char) : Option Char :=
  match ch with
  | '0' => some '\x00'
  | 'a' => some '\x07'
  | 'b' => some '\x08'
  | 't' => some '\t'
  | '\t' => some '\t'
  | 'n' => some '\n'
  | 'v' => some '\x0b'
  | 'f' => some '\x0c'
  | 'r' => some '\r'
  | 'e' => some '\x1b'
  | ' ' => some ' '
  | '"' => some '"'
  | '/' => some '/'
  | '\\' => some '\\'
  | 'N' => some '\x85'
  | '_' => some '\xa0'
  | 'L' => some '\u2028'
  | 'P' => some '\u2029'
  | _ => Option.none

/-- The number of hexadecimal digits that a letter behind a backslash announces. -/
def escapeLength? (ch : Char) : Option Nat :=
  match ch with
  | 'x' => some 2
  | 'u' => some 4
  | 'U' => some 8
  | _ => Option.none

/-- Reads an escape at its backslash: the character it stands for. -/
def readEscape? (c : Cursor) : Option (Char × Cursor) := do
  let ch ← c.peekAt 1
  match escapeLength? ch with
  | some n =>
    let digits := (c.rest.drop 2).take n
    if digits.length = n then
      let value ← Text.digits? 16 digits
      if value < 0xd800 ∨ (0xe000 ≤ value ∧ value ≤ 0x10ffff) then some (Char.ofNat value, c.skip (2 + n))
      else Option.none
    else Option.none
  | Option.none => return (← escaped? ch, c.skip 2)

/-- Reads the characters of a quoted scalar up to white space or the closing quote. The result is reversed and put in
front of `acc`; the Boolean says that an escaped line break has ended it. -/
def readQuotedWord? (single : Bool) : Nat → Text → Cursor → Option (Text × Bool × Cursor)
  | 0, _, _ => Option.none
  | bound + 1, acc, c =>
    match c.peek with
    | Option.none => some (acc, false, c)
    | some ch =>
      if isBlankChar ch || isBreakChar ch then some (acc, false, c)
      else if single then
        if ch = '\'' then
          if c.peekAt 1 = some '\'' then readQuotedWord? single bound ('\'' :: acc) (c.skip 2)
          else some (acc, false, c)
        else readQuotedWord? single bound (ch :: acc) (c.skip 1)
      else if ch = '"' then some (acc, false, c)
      else if ch = '\\' then
        if (c.peekAt 1).any isBreakChar then some (acc, true, (c.skip 1).skipBreak)
        else
          match c.readEscape? with
          | some (e, behind) => readQuotedWord? single bound (e :: acc) behind
          | Option.none => Option.none
      else readQuotedWord? single bound (ch :: acc) (c.skip 1)

/-- Reads a quoted scalar behind its opening quote. -/
def readQuoted? (single : Bool) : Nat → Text → Cursor → Option (Text × Cursor)
  | 0, _, _ => Option.none
  | bound + 1, acc, c =>
    if c.seesMark '-' || c.seesMark '.' || c.atEnd then Option.none
    else
      match readQuotedWord? single (c.rest.length + 1) acc c with
      | Option.none => Option.none
      | some (acc, broken, c) =>
        if c.sees (if single then '\'' else '"') then some (acc.reverse, c.skip 1)
        else
          match readGap? 0 (c.rest.length + 1) { Gap.none with broken } c with
          | Option.none => Option.none
          | some (g, c) => readQuoted? single bound (g.fold.reverse ++ acc) c

/-! ## Plain scalars -/

/-- Does a character end a plain scalar inside brackets? -/
def isFlowMark (ch : Char) : Bool := ch ∈ [',', '[', ']', '\x7b', '\x7d']

/-- Reads the characters of a plain scalar up to white space or its end. The result is reversed and put in front of
`acc`. -/
def readPlainWord? (inFlow : Bool) : Nat → Text → Cursor → Option (Text × Cursor)
  | 0, _, _ => Option.none
  | bound + 1, acc, c =>
    match c.peek with
    | Option.none => some (acc, c)
    | some ch =>
      if isBlankChar ch || isBreakChar ch then some (acc, c)
      else if inFlow && ch == ':' && (c.peekAt 1).any (fun n => isFlowMark n || n == '?') then Option.none
      else if (ch == ':' && c.endsWordAt 1) || (inFlow && isFlowMark ch) then some (acc, c)
      else readPlainWord? inFlow bound (ch :: acc) (c.skip 1)

/-- Reads a plain scalar whose lines are indented to at least `indent` columns. The gap in front of the cursor counts
only if more text follows; the Boolean says that it holds a line break. -/
def readPlain? (inFlow : Bool) (indent : Nat) : Nat → Text → Gap → Cursor → Option (Text × Bool × Cursor)
  | 0, _, _, _ => Option.none
  | bound + 1, acc, g, c =>
    if c.seesMark '-' || c.seesMark '.' || c.sees '#' then some (acc.reverse, g.broken, c)
    else
      match readPlainWord? inFlow (c.rest.length + 1) [] c with
      | Option.none => Option.none
      | some (word, behind) =>
        let acc := if word = [] then acc else word ++ (g.fold.reverse ++ acc)
        let g := if word = [] then g else Gap.none
        if behind.seesAny (fun ch => isBlankChar ch || isBreakChar ch) then
          match readGap? indent (behind.rest.length + 1) g behind with
          | Option.none => Option.none
          | some (g, behind) =>
            if !inFlow && decide (behind.column < indent) then some (acc.reverse, g.broken, behind)
            else readPlain? inFlow indent bound acc g behind
        else some (acc.reverse, g.broken, behind)

/-! ## Block scalars -/

/-- What becomes of the line breaks at the end of a block scalar. -/
inductive Chomping where
  | strip
  | clip
  | keep
  deriving DecidableEq

/-- Reads a chomping indicator. -/
def readChomping? (c : Cursor) : Option (Chomping × Cursor) :=
  if c.sees '+' then some (.keep, c.skip 1) else if c.sees '-' then some (.strip, c.skip 1) else Option.none

/-- Reads an indentation indicator: a digit, which must not be zero. The outer option says that it is not. -/
def readIncrement? (c : Cursor) : Option (Option (Nat × Cursor)) :=
  match c.peek with
  | some ch =>
    if ch = '0' then Option.none
    else if ch.isDigit then some (some (ch.toNat - '0'.toNat, c.skip 1))
    else some Option.none
  | Option.none => some Option.none

/-- Reads the indicators behind `|` or `>`, in either order: chomping, and indentation if it is given. -/
def readBlockHeader? (c : Cursor) : Option (Chomping × Option Nat × Cursor) :=
  match readChomping? c with
  | some (chomping, c) =>
    match readIncrement? c with
    | Option.none => Option.none
    | some Option.none => some (chomping, Option.none, c)
    | some (some (n, c)) => some (chomping, some n, c)
  | Option.none =>
    match readIncrement? c with
    | Option.none => Option.none
    | some Option.none => some (.clip, Option.none, c)
    | some (some (n, c)) =>
      match readChomping? c with
      | some (chomping, c) => some (chomping, some n, c)
      | Option.none => some (.clip, some n, c)

/-- Reads empty lines and the indentation of the first line that is not empty. An unknown `indent` is zero; then the
deepest column is found as well. A tab must not stand in the indentation. -/
def readBreaks? (indent : Nat) : Nat → Text → Nat → Cursor → Option (Text × Nat × Cursor)
  | 0, _, _, _ => Option.none
  | bound + 1, breaks, deepest, c =>
    let spaces := (c.rest.takeWhile (· = ' ')).length
    let c := c.skip (if indent = 0 then spaces else min spaces (indent - c.column))
    let deepest := max deepest c.column
    if (indent = 0 || decide (c.column < indent)) && c.sees '\t' then Option.none
    else if c.seesAny isBreakChar then
      let (line, behind) := c.readBreak
      readBreaks? indent bound (breaks ++ line) deepest behind
    else some (breaks, deepest, c)

/-- Reads the lines of a block scalar. `leading` is the break behind the last line, `breaks` the empty lines behind it,
and `wasBlank` says that the last line begins with a blank. The text read so far is reversed. -/
def readLines? (literal : Bool) (indent : Nat) :
    Nat → Text → Text → Text → Bool → Cursor → Option (Text × Text × Text × Cursor)
  | 0, _, _, _, _, _ => Option.none
  | bound + 1, acc, leading, breaks, wasBlank, c =>
    if c.column = indent ∧ ¬ c.atEnd then
      let isBlank := c.seesAny isBlankChar
      let joint :=
        if !literal && leading == ['\n'] && !wasBlank && !isBlank then (if breaks = [] then [' '] else breaks)
        else leading ++ breaks
      let line := c.rest.takeWhile fun ch => !isBreakChar ch
      let (leading, behind) := (c.skip line.length).readBreak
      match readBreaks? indent (behind.rest.length + 1) [] 0 behind with
      | Option.none => Option.none
      | some (breaks, _, behind) =>
        readLines? literal indent bound (line.reverse ++ (joint.reverse ++ acc)) leading breaks isBlank behind
    else some (acc, leading, breaks, c)

/-- Reads a block scalar behind its indicator. The block around it is indented to `outer` columns, or is none. -/
def readBlock? (literal : Bool) (outer : Option Nat) (c : Cursor) : Option (Text × Cursor) := do
  let (chomping, increment, c) ← readBlockHeader? c
  let c ← c.finishLine?
  let least := match outer with | some n => n + 1 | Option.none => 1
  let given := match increment with | some n => (outer.getD 0) + n | Option.none => 0
  let (breaks, deepest, c) ← readBreaks? given (c.rest.length + 1) [] 0 c
  let indent := if given = 0 then max deepest least else given
  let (acc, leading, breaks, c) ← readLines? literal indent (c.rest.length + 1) [] [] breaks false c
  let ending := match chomping with
    | .strip => []
    | .clip => leading
    | .keep => leading ++ breaks
  return (acc.reverse ++ ending, c)

end PageHarvest.Yaml.Cursor
