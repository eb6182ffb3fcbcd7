import PageHarvest.Session.Prompt

/-!
# Lines

A sequence is cut into lines behind each of its newlines (`Prompt.linesAt`). The input of a session has lines in this
sense (`Prompt.byteLines`), and so has a text (`Prompt.lines`).

- `Lined`: what lines are; `lined_linesAt`: those of a sequence are such lines.
- `byteLines_eq`: an input is read one line at a time.
- `byteLines_bytes`: the lines of a text are those of its bytes.
-/

namespace PageHarvest.Prompt

section Lines

variable {α : Type} {e : α} {as l : List α}

/-- Lines that make up a sequence. Each of them ends in the newline `e` and holds no other, but the last one may hold
none. -/
inductive Lined (e : α) : List α → List (List α) → Prop
  | nil : Lined e [] []
  | last {l : List α} : l ≠ [] → e ∉ l → Lined e l [l]
  | line {l rest : List α} {ls : List (List α)} : e ∉ l → Lined e rest ls → Lined e (l ++ e :: rest) ((l ++ [e]) :: ls)

section Lined

variable {ls : List (List α)} (h : Lined e as ls)
include h

theorem Lined.flatten_eq : ls.flatten = as := by
  induction h with
  | nil => rfl
  | last => simp
  | line _ _ ih => simp [ih]

theorem Lined.ne_nil (hl : l ∈ ls) : l ≠ [] := by
  induction h with
  | nil => cases hl
  | last hne =>
    obtain rfl := List.mem_singleton.1 hl
    exact hne
  | line _ _ ih =>
    rcases List.mem_cons.1 hl with rfl | hl
    · simp
    · exact ih hl

/-- A line has one newline at most, and that at its end. -/
theorem Lined.not_mem_dropLast (hl : l ∈ ls) : e ∉ l.dropLast := by
  induction h with
  | nil => cases hl
  | last _ hnot =>
    obtain rfl := List.mem_singleton.1 hl
    exact fun he => hnot (List.dropLast_subset _ he)
  | line hnot _ ih =>
    rcases List.mem_cons.1 hl with rfl | hl
    · simpa using hnot
    · exact ih hl

/-- All lines but the last one end in a newline. -/
theorem Lined.getLast?_of_mem_dropLast (hl : l ∈ ls.dropLast) : l.getLast? = some e := by
  induction h with
  | nil => cases hl
  | last => cases hl
  | @line _ _ ls _ _ ih =>
    by_cases hls : ls = []
    · simp [hls] at hl
    · rw [List.dropLast_cons_of_ne_nil hls] at hl
      rcases List.mem_cons.1 hl with rfl | hl
      · simp
      · exact ih hl

end Lined

/-- Puts elements in front of the first line, or makes them the only one. -/
def extendFirst (front : List α) : List (List α) → List (List α)
  | [] => [front]
  | l :: ls => (front ++ l) :: ls

variable [DecidableEq α]

/-- The lines of a sequence, each with the newline `e` that ends it. The last one may lack it. -/
def linesAt (e : α) : List α → List (List α)
  | [] => []
  | a :: as => if a = e then [a] :: linesAt e as else extendFirst [a] (linesAt e as)

/-- What holds no newline goes into the first line. -/
theorem linesAt_append {front : List α} (hne : front ≠ []) (h : e ∉ front) (as : List α) :
    linesAt e (front ++ as) = extendFirst front (linesAt e as) := by
  induction front with
  | nil => exact absurd rfl hne
  | cons a front ih =>
    rw [List.mem_cons, not_or] at h
    rw [List.cons_append, linesAt, if_neg (Ne.symm h.1)]
    by_cases hf : front = []
    · rw [hf, List.nil_append]
    · rw [ih hf h.2]
      cases linesAt e as <;> rfl

theorem lined_linesAt (e : α) (as : List α) : Lined e as (linesAt e as) := by
  induction as with
  | nil => exact .nil
  | cons a as ih =>
    rw [linesAt]
    by_cases ha : a = e
    · subst ha
      rw [if_pos rfl]
      exact .line (l := []) List.not_mem_nil ih
    · rw [if_neg ha]
      have hcons {l : List α} (hl : e ∉ l) : e ∉ a :: l := List.not_mem_cons_of_ne_of_not_mem (Ne.symm ha) hl
      generalize linesAt e as = ls at ih
      cases ih with
      | nil => exact .last (List.cons_ne_nil _ _) (hcons List.not_mem_nil)
      | last _ hl => exact .last (List.cons_ne_nil _ _) (hcons hl)
      | line hl hrest => exact .line (hcons hl) hrest

end Lines

/-- The lines of an input, each with the newline that ends it. The last one may lack it. -/
def byteLines (input : List UInt8) : List (List UInt8) := linesAt newline input

/-- The lines of a text, each with the newline that ends it. The last one may lack it. -/
def lines (t : Text) : List Text := linesAt '\n' t

/-- One line is read at a time. -/
theorem byteLines_eq {input : List UInt8} (h : input ≠ []) :
    byteLines input = (splitLine input).1 :: byteLines (splitLine input).2 := by
  unfold byteLines
  induction input with
  | nil => exact absurd rfl h
  | cons b bs ih =>
    rw [linesAt, splitLine]
    by_cases hb : b = newline
    · simp [hb]
    · by_cases hbs : bs = []
      · simp [hb, hbs, linesAt, splitLine, extendFirst]
      · simp [hb, ih hbs, extendFirst]

/-- No character but the newline has the byte of the newline in its UTF-8 form. -/
theorem newline_not_mem_of_ne {c : Char} (hc : c ≠ '\n') : newline ∉ String.utf8EncodeChar c :=
  Text.ofNat_not_mem_utf8EncodeChar (d := '\n') (by decide) hc

/-- **The lines of a text are those of its bytes.** -/
theorem byteLines_bytes (t : Text) : byteLines (Text.bytes t) = (lines t).map Text.bytes := by
  unfold byteLines lines
  induction t with
  | nil => rfl
  | cons c t ih =>
    by_cases hc : c = '\n'
    · subst hc
      have hbytes : Text.bytes ('\n' :: t) = newline :: Text.bytes t := rfl
      rw [hbytes, linesAt, if_pos rfl, linesAt, if_pos rfl, ih]
      rfl
    · have hne : String.utf8EncodeChar c ≠ [] := by
        rw [← List.length_pos_iff, String.length_utf8EncodeChar]
        exact c.utf8Size_pos
      rw [Text.bytes_cons, linesAt_append hne (newline_not_mem_of_ne hc), ih, linesAt, if_neg hc]
      cases linesAt '\n' t <;> simp [extendFirst, Text.bytes_cons]

end PageHarvest.Prompt
