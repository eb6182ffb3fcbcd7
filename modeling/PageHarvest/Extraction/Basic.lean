import PageHarvest.Extraction.Literal
import PageHarvest.Filter.Registry
import PageHarvest.Record
import PageHarvest.Template.Basic

/-!
# Extraction

A template is run over a content from left to right, again and again. One pass through the tokens yields one record:
a literal is looked for from the cursor onwards, and what is passed over in front of it is the value of the placeholder
in front of it. A pass that moves the cursor nowhere skips one character, so the passes come to an end; a pass that the
content cuts short yields nothing.

- `step` does what the next token asks for.
- `weight_lt_of_step`: each step lessens the work left, so every extraction ends.
- `extract` lists the records in order.
-/

namespace PageHarvest

open Text (isBlankText)

namespace Extraction

/-- The placeholder name whose values are not recorded. -/
def discard : Text := ['_']

/-- A placeholder whose value has begun: its name, its filters, and the content from the beginning of the value. -/
structure Capture where
  name : Text
  filters : List Text
  start : Text
  deriving DecidableEq, Repr

/-- A state of the extraction. Places in the content are kept as what follows them: `passStart` where the pass began and
`rest` behind the cursor. `ahead` holds the tokens of the pass that are still to come. -/
structure State where
  passStart : Text
  rest : Text
  ahead : List Token
  capture : Option Capture
  record : Record
  deriving DecidableEq

/-- What a step leads to: another state, a record and perhaps another state, or the end. -/
inductive Move where
  | go (s : State)
  | emit (r : Record) (next : Option State)
  | stop

/-- The part of a content that begins at `start` and ends where `rest` begins. -/
def between (start rest : Text) : Text := start.take (start.length - rest.length)

/-- Records the value of an open placeholder, which ends where `rest` begins. -/
def close (reg : Registry) (rest : Text) (record : Record) : Option Capture → Record
  | none => record
  | some c =>
    if c.name = discard then record
    else record.insert c.name (reg.applyChain (between c.start rest) c.filters)

/-- The state at the beginning of a pass. -/
def begin (t : Template) (rest : Text) : State :=
  { passStart := rest, rest, ahead := t.tokens, capture := none, record := Record.empty }

/-- Where the pass after a complete one begins: at the cursor, or one character on if the pass has not moved it. -/
def nextStart (s : State) : Text := if s.rest.length = s.passStart.length then s.rest.drop 1 else s.rest

/-- A complete pass: its record, and the next pass unless the content is used up. -/
def finishPass (t : Template) (s : State) : Move :=
  .emit s.record (if nextStart s = [] then none else some (begin t (nextStart s)))

/-- One step of the extraction. -/
def step (t : Template) (reg : Registry) (s : State) : Move :=
  match s.ahead with
  | [] => finishPass t s
  | token :: ahead =>
    match token.kind with
    | .text =>
      match s.rest with
      | [] => .stop
      | _ :: slid =>
        match Literal.after? token.literal s.rest with
        | some rest => .go { s with rest, ahead, capture := none, record := close reg s.rest s.record s.capture }
        | none => .go { s with rest := slid }
    | .variableName =>
      .go { s with ahead, capture := some ⟨token.literal, Template.leadingFilters ahead, s.rest⟩ }
    | .leftDelimiter | .rightDelimiter | .pipe | .filterName => .go { s with ahead }
    | .endOfTemplate | .error => finishPass t s

/-! ## Every extraction ends -/

/-- Zero while the pass has not moved the cursor, one from then on. -/
def moved (s : State) : Nat := if s.rest.length = s.passStart.length then 0 else 1

/-- The work left, to be compared lexicographically: content to read, whether the pass has moved, tokens to come. -/
def weight (s : State) : Nat × Nat × Nat := (s.rest.length, moved s, s.ahead.length)

/-- The order in which steps lessen the work left. -/
abbrev Lighter (a b : State) : Prop := Prod.Lex (· < ·) (Prod.Lex (· < ·) (· < ·)) (weight a) (weight b)

/-- The state that a move leads to, if there is one. -/
def Move.next? : Move → Option State
  | .go s => some s
  | .emit _ next => next
  | .stop => none

theorem lighter_of_length_lt {a b : State} (h : a.rest.length < b.rest.length) : Lighter a b := .left _ _ h

theorem lighter_of_ahead_lt {a b : State} (h : a.rest.length = b.rest.length) (p : a.passStart = b.passStart)
    (l : a.ahead.length < b.ahead.length) : Lighter a b := by
  have hm : moved a = moved b := by simp [moved, h, p]
  unfold Lighter weight
  rw [h, hm]
  exact .right _ (.right _ l)

theorem lighter_finishPass {t : Template} {s s' : State} (h : (finishPass t s).next? = some s') : Lighter s' s := by
  simp only [finishPass, Move.next?, Option.ite_none_left_eq_some, Option.some.injEq] at h
  obtain ⟨hne, rfl⟩ := h
  by_cases hm : s.rest.length = s.passStart.length
  · rw [nextStart, if_pos hm] at hne ⊢
    refine lighter_of_length_lt ?_
    have : s.rest ≠ [] := fun e => hne (by simp [e])
    have := List.length_pos_iff.2 this
    simp only [begin, List.length_drop]
    omega
  · rw [nextStart, if_neg hm]
    unfold Lighter weight
    refine .right _ (.left _ _ ?_)
    simp [moved, begin, hm]

theorem lighter_of_step {t : Template} {reg : Registry} {s s' : State} (h : (step t reg s).next? = some s') :
    Lighter s' s := by
  unfold step at h
  split at h
  · exact lighter_finishPass h
  · rename_i token ahead ha
    have hl : ahead.length < s.ahead.length := by simp [ha]
    split at h
    · split at h
      · cases h
      · rename_i c slid hr
        split at h
        · rename_i rest hm
          cases h
          have hle := Literal.length_after?_le hm
          by_cases he : rest.length = s.rest.length
          · exact lighter_of_ahead_lt he rfl hl
          · exact lighter_of_length_lt (by simp only; omega)
        · cases h
          exact lighter_of_length_lt (by simp [hr])
    · cases h; exact lighter_of_ahead_lt rfl rfl hl
    · cases h; exact lighter_of_ahead_lt rfl rfl hl
    · cases h; exact lighter_of_ahead_lt rfl rfl hl
    · cases h; exact lighter_of_ahead_lt rfl rfl hl
    · cases h; exact lighter_of_ahead_lt rfl rfl hl
    · exact lighter_finishPass h
    · exact lighter_finishPass h

/-- The records found from a state onwards. -/
def run (t : Template) (reg : Registry) (s : State) : List Record :=
  match _h : step t reg s with
  | .go s' => run t reg s'
  | .emit r none => [r]
  | .emit r (some s') => r :: run t reg s'
  | .stop => []
termination_by weight s
decreasing_by
  all_goals exact lighter_of_step (by rw [_h]; rfl)

end Extraction

/-- The records of all complete matches of a template in a content, in order. -/
def extract (t : Template) (reg : Registry) (content : Text) : List Record :=
  if t.isEmpty then [] else Extraction.run t reg (Extraction.begin t content)

end PageHarvest
