import PageHarvest.Template.Token
import PageHarvest.Text.Blank
import PageHarvest.Text.Quoted

/-!
# Scanning a definition

A `Scanner` walks through the source of a definition one step at a time. It keeps the tokens emitted so far, the
lexeme read since the last of them, and the source not read yet. A mode says what is being read. A delimiter mode whose
delimiter does not come next is stuck: `next?` is `none` there, as it is once the source is accepted or rejected.

- `Scanner.weight_lt_of_next?`: each step makes the scanner lighter, so every scan ends.
- `lex` gives the tokens of any source; the last one is the end of the template or an error.
- `tokenize` gives the tokens of a well-formed source, or the fault and the byte offset at which it was noticed.
-/

namespace PageHarvest

open Text (isSpace)

/-- Why a source is not a definition. -/
inductive Fault where
  | unclosed
  | space (c : Char)
  | emptyVariable
  | emptyFilter
  deriving DecidableEq, Repr

/-- The wording of a fault. -/
def Fault.reason : Fault → Text
  | .unclosed => "unclosed placeholder, expected '\x7d\x7d'".toList
  | .space c => "whitespace ".toList ++ (Text.quotedChar c ++ " inside placeholder".toList)
  | .emptyVariable => "empty variable name".toList
  | .emptyFilter => "empty filter name".toList

namespace Scanner

/-- What a scanner is reading, or how it ended. -/
inductive Mode where
  | text
  | leftDelimiter
  | variableName
  | pipe
  | filterName
  | rightDelimiter
  | accepted
  | rejected (fault : Fault)
  deriving DecidableEq, Repr

/-- One if the mode reads characters one by one, zero for the other modes. -/
def Mode.rank : Mode → Nat
  | .text | .variableName | .filterName => 1
  | _ => 0

end Scanner

/-- A state of the scan: the mode, the byte offset at which the current lexeme starts, the lexeme read so far, the
source behind it, and the tokens emitted in front of it. The lexeme and the tokens are held in reverse. -/
structure Scanner where
  mode : Scanner.Mode
  start : Nat
  lexemeRev : Text
  rest : Text
  tokensRev : List Token
  deriving DecidableEq, Repr

namespace Scanner

/-- The scanner in front of a source. -/
def init (source : Text) : Scanner :=
  { mode := .text, start := 0, lexemeRev := [], rest := source, tokensRev := [] }

/-- The lexeme read so far. -/
def lexeme (s : Scanner) : Text := s.lexemeRev.reverse

/-- The tokens emitted so far. -/
def tokens (s : Scanner) : List Token := s.tokensRev.reverse

/-- The byte offset up to which the source has been read. -/
def pos (s : Scanner) : Nat := s.start + Text.size s.lexeme

/-- Moves one character from the source to the lexeme. -/
def read (s : Scanner) (c : Char) (rest : Text) : Scanner :=
  { s with lexemeRev := c :: s.lexemeRev, rest }

/-- Moves a delimiter from the source to the lexeme. -/
def readDelimiter (s : Scanner) (delimiter rest : Text) : Scanner :=
  { s with lexemeRev := delimiter.reverse ++ s.lexemeRev, rest }

/-- Turns the lexeme into a token and goes on in another mode. -/
def emit (s : Scanner) (kind : Token.Kind) (mode : Mode) : Scanner :=
  { s with mode, start := s.pos, lexemeRev := [], tokensRev := ⟨kind, s.lexeme⟩ :: s.tokensRev }

/-- Goes on in another mode, emitting the lexeme as literal text unless it is empty. -/
def emitText (s : Scanner) (mode : Mode) : Scanner :=
  if s.lexemeRev = [] then { s with mode } else s.emit .text mode

/-- Ends the scan with a fault. -/
def reject (s : Scanner) (fault : Fault) : Scanner :=
  { s with mode := .rejected fault, tokensRev := ⟨.error, fault.reason⟩ :: s.tokensRev }

/-- Ends a name: a fault if it is empty, else a token and the next mode. -/
def finishName (s : Scanner) (kind : Token.Kind) (empty : Fault) (mode : Mode) : Scanner :=
  if s.lexemeRev = [] then s.reject empty else s.emit kind mode

/-- One step inside a name, which a bar or the closing delimiter ends. -/
def nextInName (s : Scanner) (kind : Token.Kind) (empty : Fault) : Scanner :=
  match s.rest with
  | [] => s.reject .unclosed
  | '\x7d' :: '\x7d' :: _ => s.finishName kind empty .rightDelimiter
  | c :: rest =>
    if c = '|' then s.finishName kind empty .pipe
    else if isSpace c then s.reject (.space c)
    else s.read c rest

/-- One step of the scan. -/
def next? (s : Scanner) : Option Scanner :=
  match s.mode with
  | .text =>
    match s.rest with
    | [] => some ((s.emitText .text).emit .endOfTemplate .accepted)
    | '\x7b' :: '\x7b' :: _ => some (s.emitText .leftDelimiter)
    | c :: rest => some (s.read c rest)
  | .leftDelimiter =>
    match s.rest with
    | '\x7b' :: '\x7b' :: rest => some ((s.readDelimiter Token.opening rest).emit .leftDelimiter .variableName)
    | _ => none
  | .variableName => some (s.nextInName .variableName .emptyVariable)
  | .pipe =>
    match s.rest with
    | '|' :: rest => some ((s.readDelimiter Token.bar rest).emit .pipe .filterName)
    | _ => none
  | .filterName => some (s.nextInName .filterName .emptyFilter)
  | .rightDelimiter =>
    match s.rest with
    | '\x7d' :: '\x7d' :: rest => some ((s.readDelimiter Token.closing rest).emit .rightDelimiter .text)
    | _ => none
  | .accepted => none
  | .rejected _ => none

/-! ## Tokens and lexeme -/

@[simp] theorem lexeme_read (s : Scanner) (c : Char) (rest : Text) : (s.read c rest).lexeme = s.lexeme ++ [c] := by
  simp [read, lexeme]

@[simp] theorem lexeme_readDelimiter (s : Scanner) (delimiter rest : Text) :
    (s.readDelimiter delimiter rest).lexeme = s.lexeme ++ delimiter := by
  simp [readDelimiter, lexeme]

@[simp] theorem lexeme_emit (s : Scanner) (kind : Token.Kind) (mode : Mode) : (s.emit kind mode).lexeme = [] := rfl

@[simp] theorem tokens_emit (s : Scanner) (kind : Token.Kind) (mode : Mode) :
    (s.emit kind mode).tokens = s.tokens ++ [⟨kind, s.lexeme⟩] := by
  simp [emit, tokens]

@[simp] theorem tokens_reject (s : Scanner) (fault : Fault) :
    (s.reject fault).tokens = s.tokens ++ [⟨.error, fault.reason⟩] := by
  simp [reject, tokens]

theorem lexeme_eq_nil_iff (s : Scanner) : s.lexeme = [] ↔ s.lexemeRev = [] := List.reverse_eq_nil_iff

/-! ## Every scan ends -/

/-- The work left: two units for each character, one more where characters are read one by one. -/
def weight (s : Scanner) : Nat := 2 * s.rest.length + s.mode.rank

@[simp] theorem rest_emit (s : Scanner) (kind : Token.Kind) (mode : Mode) : (s.emit kind mode).rest = s.rest := rfl

@[simp] theorem mode_emit (s : Scanner) (kind : Token.Kind) (mode : Mode) : (s.emit kind mode).mode = mode := rfl

@[simp] theorem rest_emitText (s : Scanner) (mode : Mode) : (s.emitText mode).rest = s.rest := by
  unfold emitText; split <;> rfl

@[simp] theorem mode_emitText (s : Scanner) (mode : Mode) : (s.emitText mode).mode = mode := by
  unfold emitText; split <;> rfl

@[simp] theorem rest_reject (s : Scanner) (fault : Fault) : (s.reject fault).rest = s.rest := rfl

@[simp] theorem mode_reject (s : Scanner) (fault : Fault) : (s.reject fault).mode = .rejected fault := rfl

@[simp] theorem rest_read (s : Scanner) (c : Char) (rest : Text) : (s.read c rest).rest = rest := rfl

@[simp] theorem rest_readDelimiter (s : Scanner) (delimiter rest : Text) :
    (s.readDelimiter delimiter rest).rest = rest := rfl

@[simp] theorem mode_read (s : Scanner) (c : Char) (rest : Text) : (s.read c rest).mode = s.mode := rfl

theorem weight_reject (s : Scanner) (fault : Fault) : (s.reject fault).weight = 2 * s.rest.length := rfl

theorem weight_emit (s : Scanner) (kind : Token.Kind) (mode : Mode) :
    (s.emit kind mode).weight = 2 * s.rest.length + mode.rank := rfl

theorem weight_finishName_le (s : Scanner) (kind : Token.Kind) (empty : Fault) (mode : Mode) (h : mode.rank = 0) :
    (s.finishName kind empty mode).weight ≤ 2 * s.rest.length := by
  unfold finishName
  split
  · simp [weight_reject]
  · simp [weight_emit, h]

theorem weight_nextInName_lt (s : Scanner) (kind : Token.Kind) (empty : Fault) (h : s.mode.rank = 1) :
    (s.nextInName kind empty).weight < s.weight := by
  have hs : s.weight = 2 * s.rest.length + 1 := by rw [weight, h]
  unfold nextInName
  split
  · rw [weight_reject]; omega
  · have := s.weight_finishName_le kind empty .rightDelimiter rfl
    omega
  · rename_i c rest _ hr
    have := s.weight_finishName_le kind empty .pipe rfl
    split
    · omega
    · split
      · rw [weight_reject]; omega
      · simp [weight, h, hr]

theorem weight_lt_of_next? {s s' : Scanner} (h : s.next? = some s') : s'.weight < s.weight := by
  unfold next? at h
  split at h
  · rename_i hm
    split at h <;> cases h <;> simp_all [weight, Mode.rank]
  · rename_i hm
    split at h <;> cases h
    simp_all [weight, Mode.rank]; omega
  · rename_i hm; cases h; exact s.weight_nextInName_lt _ _ (by simp [hm, Mode.rank])
  · rename_i hm
    split at h <;> cases h
    simp_all [weight, Mode.rank]; omega
  · rename_i hm; cases h; exact s.weight_nextInName_lt _ _ (by simp [hm, Mode.rank])
  · rename_i hm
    split at h <;> cases h
    simp_all [weight, Mode.rank]; omega
  · cases h
  · cases h

/-- The last state of the scan that starts in `s`. -/
def run (s : Scanner) : Scanner :=
  match _h : s.next? with
  | none => s
  | some s' => s'.run
termination_by s.weight
decreasing_by exact weight_lt_of_next? _h

end Scanner

/-- The tokens of a source, the last of which is the end of the template or an error. -/
def lex (source : Text) : List Token := (Scanner.init source).run.tokens

/-- The tokens of a well-formed source, or the byte offset and the nature of its first fault. -/
def tokenize (source : Text) : Except (Nat × Fault) (List Token) :=
  let final := (Scanner.init source).run
  match final.mode with
  | .rejected fault => .error (final.pos, fault)
  | _ => .ok final.tokens

end PageHarvest
