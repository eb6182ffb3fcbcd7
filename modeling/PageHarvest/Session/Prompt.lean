import PageHarvest.Text.Blank

/-!
# Asking for a location

A prompt is written and a line is read, until a line is not blank. Input is read as bytes: a line that is not UTF-8 is
an answer of its own kind, and what follows it is read all the same.

- `splitLine_append`: a line and what follows it make up the input.
- `length_splitLine_snd_lt`: unless the input is at its end, a line is taken of it.
-/

namespace PageHarvest.Prompt

/-- What is written in front of each line. -/
def text : Text := "Enter a URL (type q to quit): ".toList

/-- The line that ends a session. -/
def quit : Text := ['q']

/-- The byte that ends a line. -/
def newline : UInt8 := 10

/-- The first line of an input, with the newline that ends it, and what follows. -/
def splitLine : List UInt8 → List UInt8 × List UInt8
  | [] => ([], [])
  | b :: bs => if b = newline then ([b], bs) else (b :: (splitLine bs).1, (splitLine bs).2)

theorem splitLine_append (bs : List UInt8) : (splitLine bs).1 ++ (splitLine bs).2 = bs := by
  induction bs with
  | nil => rfl
  | cons b bs ih => rw [splitLine]; split <;> simp [ih]

theorem splitLine_fst_ne_nil {bs : List UInt8} (h : bs ≠ []) : (splitLine bs).1 ≠ [] := by
  cases bs with
  | nil => exact absurd rfl h
  | cons b bs => rw [splitLine]; split <;> simp

theorem length_splitLine_snd_lt {bs : List UInt8} (h : bs ≠ []) : (splitLine bs).2.length < bs.length := by
  have hl := congrArg List.length (splitLine_append bs)
  have hp := List.length_pos_iff.2 (splitLine_fst_ne_nil h)
  rw [List.length_append] at hl
  omega

/-- What came of asking: a location, the wish to stop or the end of the input, or a line that is not UTF-8. -/
inductive Answer where
  | location (location : Text)
  | finished
  | unreadable
  deriving DecidableEq, Repr

/-- What a line of the input says; `none` is a blank line, after which the question is put again. -/
def answer? (line : List UInt8) : Option Answer :=
  match Text.ofBytes? line with
  | none => some .unreadable
  | some t =>
    let entry := Text.trim t
    if entry = [] then none else if entry = quit then some .finished else some (.location entry)

/-- An answer, the number of prompts that it took, and the rest of the input. -/
structure Reply where
  answer : Answer
  prompts : Nat
  rest : List UInt8
  deriving DecidableEq, Repr

/-- Asks until there is an answer. -/
def read (input : List UInt8) : Reply :=
  if _h : input = [] then ⟨.finished, 1, []⟩
  else
    match answer? (splitLine input).1 with
    | some answer => ⟨answer, 1, (splitLine input).2⟩
    | none =>
      let reply := read (splitLine input).2
      { reply with prompts := reply.prompts + 1 }
termination_by input.length
decreasing_by exact length_splitLine_snd_lt _h

/-- What is written while asking. -/
def Reply.written (r : Reply) : Text := (List.replicate r.prompts text).flatten

end PageHarvest.Prompt
