import PageHarvest.Filter.Standard

/-!
# Spacing out words in place

The filter `respace` reads a text once and looks one character ahead. A text can also be spaced out in place: where a word
begins at the place that comes next, a space is put in front of it, and the reading goes on behind the first character of
the word (`Edit.next?`). Each space moves all that is still to be read, and the character that is looked at ahead is one
of the changed text.

- `Edit.step_of_next?`: what a step can be. Only what has been read is changed.
- `Edit.Step.outcome_eq`, `Edit.Step.undoes`, `Edit.Step.total_eq`: what a step keeps.
- `respace_exact`: the two ways agree, and which spaces have been put in.
-/

namespace PageHarvest.Filter

/-- Does a word begin at the place `i` of a text: with a capital, with `&`, or with an `x` directly followed by a
digit? -/
def wordAt (t : Text) (i : Nat) : Bool :=
  t[i]?.any fun c => c.isUpper || c == '&' || (c == 'x' && t[i + 1]?.any Char.isDigit)

/-- The number of words that begin in a text at the place `i` or behind it. -/
def wordsFrom (t : Text) (i : Nat) : Nat := (List.range' i (t.length - i)).countP (wordAt t)

/-- A text that is changed while it is read: the place that comes next, and the places of the spaces that have been put
in, the last one first. -/
structure Edit where
  text : Text
  place : Nat
  spaces : List Nat
  deriving DecidableEq, Repr

namespace Edit

/-- The text in front of any change. The first character is not looked at. -/
def init (v : Text) : Edit := ⟨v, 1, []⟩

/-- One step: a word that begins at the place gets a space. -/
def next? (e : Edit) : Option Edit :=
  if e.place < e.text.length then
    if wordAt e.text e.place then some ⟨e.text.insertIdx e.place ' ', e.place + 2, e.place :: e.spaces⟩
    else some { e with place := e.place + 1 }
  else none

/-! ## What a step can be -/

/-- **The steps**, by what has been read and what lies ahead. -/
inductive Step : Edit → Edit → Prop
  | spaced {read ahead : Text} {c : Char} {spaces : List Nat} : startsWord c ahead = true →
      Step ⟨read ++ c :: ahead, read.length, spaces⟩
        ⟨read ++ ' ' :: c :: ahead, read.length + 2, read.length :: spaces⟩
  | passed {read ahead : Text} {c : Char} {spaces : List Nat} : startsWord c ahead = false →
      Step ⟨read ++ c :: ahead, read.length, spaces⟩ ⟨read ++ c :: ahead, read.length + 1, spaces⟩

/-- Whether a word begins at a place is told by what lies ahead of it. -/
theorem wordAt_append (read ahead : Text) (i : Nat) : wordAt (read ++ ahead) (read.length + i) = wordAt ahead i := by
  have hget (j : Nat) : (read ++ ahead)[read.length + j]? = ahead[j]? := by
    rw [List.getElem?_append_right (Nat.le_add_right _ _), Nat.add_sub_cancel_left]
  rw [wordAt, wordAt, Nat.add_assoc, hget, hget]

theorem wordAt_cons_zero (c : Char) (ahead : Text) : wordAt (c :: ahead) 0 = startsWord c ahead := by
  simp [wordAt, startsWord, List.head?_eq_getElem?]

theorem insertIdx_append (read ahead : Text) (c : Char) : (read ++ ahead).insertIdx read.length c = read ++ c :: ahead := by
  induction read with
  | nil => rfl
  | cons d read ih => simp [ih]

theorem step_of_next? {e e' : Edit} (h : e.next? = some e') : Step e e' := by
  obtain ⟨text, place, spaces⟩ := e
  obtain ⟨hlt, h⟩ := Option.ite_none_right_eq_some.1 h
  obtain ⟨read, ahead, rfl, rfl⟩ : ∃ read ahead, text = read ++ ahead ∧ read.length = place :=
    ⟨text.take place, text.drop place, by simp, List.length_take_of_le (Nat.le_of_lt hlt)⟩
  cases ahead with
  | nil => simp at hlt
  | cons c ahead =>
    have hword : wordAt (read ++ c :: ahead) read.length = startsWord c ahead :=
      (wordAt_append read _ 0).trans (wordAt_cons_zero c ahead)
    simp only [hword, insertIdx_append] at h
    split at h <;> cases h
    · exact .spaced ‹_›
    · exact .passed ((Bool.not_eq_true _).mp ‹_›)

theorem Step.left_lt {e e' : Edit} (h : Step e e') : e'.text.length - e'.place < e.text.length - e.place := by
  cases h <;> simp only [List.length_append, List.length_cons] <;> omega

/-- The text when all of it has been read. -/
def run (e : Edit) : Edit :=
  match _h : e.next? with
  | none => e
  | some e' => e'.run
termination_by e.text.length - e.place
decreasing_by exact (step_of_next? _h).left_lt

/-! ## What a step keeps -/

variable {e e' : Edit} {v : Text}

/-- What has been read, and what lies ahead with a space in front of each word. -/
def outcome (e : Edit) : Text := e.text.take e.place ++ spaced (e.text.drop e.place)

theorem outcome_eq_of_cut (read ahead : Text) (ht : e.text = read ++ ahead) (hp : e.place = read.length) :
    e.outcome = read ++ spaced ahead := by
  rw [outcome, ht, hp, List.take_left, List.drop_left]

theorem Step.outcome_eq (h : Step e e') : e'.outcome = e.outcome := by
  cases h with
  | @spaced read ahead c _ hw =>
    rw [outcome_eq_of_cut (read ++ [' ', c]) ahead (by simp) (by simp),
      outcome_eq_of_cut read (c :: ahead) rfl rfl, Filter.spaced, if_pos hw]
    simp
  | @passed read ahead c _ hw =>
    rw [outcome_eq_of_cut (read ++ [c]) ahead (by simp) (by simp),
      outcome_eq_of_cut read (c :: ahead) rfl rfl, Filter.spaced, if_neg (by simp [hw])]
    simp

/-- The spaces stand in front of the place, and when they are taken away, the last one first, the text is `v`. -/
structure Undoes (v : Text) (e : Edit) : Prop where
  lt : ∀ i ∈ e.spaces, i < e.place
  space : ∀ i ∈ e.spaces, e.text[i]? = some ' '
  descending : e.spaces.Pairwise (· > ·)
  erased : e.spaces.foldl List.eraseIdx e.text = v

theorem undoes_init (v : Text) : (init v).Undoes v := ⟨nofun, nofun, .nil, rfl⟩

theorem Step.undoes (hu : e.Undoes v) (h : Step e e') : e'.Undoes v := by
  cases h with
  | @spaced read ahead c spaces _ =>
    obtain ⟨hlt, hspace, hdesc, herased⟩ := hu
    simp only at hlt hspace hdesc herased
    refine ⟨?_, ?_, List.pairwise_cons.2 ⟨hlt, hdesc⟩, ?_⟩
    · exact List.forall_mem_cons.2 ⟨Nat.lt_add_of_pos_right Nat.two_pos, fun i hi => Nat.lt_add_right 2 (hlt i hi)⟩
    · refine List.forall_mem_cons.2 ⟨by simp, fun i hi => ?_⟩
      -- what has been read stays where it is
      have hs := hspace i hi
      rw [List.getElem?_append_left (hlt i hi)] at hs
      rw [List.getElem?_append_left (hlt i hi), hs]
    · rw [List.foldl_cons, ← insertIdx_append read (c :: ahead) ' ', List.eraseIdx_insertIdx_self, herased]
  | passed _ => exact ⟨fun i hi => Nat.lt_succ_of_lt (hu.lt i hi), hu.space, hu.descending, hu.erased⟩

theorem wordsFrom_append (read ahead : Text) : wordsFrom (read ++ ahead) read.length = wordsFrom ahead 0 := by
  have hshift : (wordAt (read ++ ahead) ∘ fun i => read.length + i) = wordAt ahead := funext (wordAt_append read ahead)
  rw [wordsFrom, wordsFrom, List.length_append, Nat.add_sub_cancel_left, List.range'_eq_map_range, List.countP_map,
    hshift, List.range_eq_range', Nat.sub_zero]

theorem wordsFrom_cons (c : Char) (ahead : Text) :
    wordsFrom (c :: ahead) 0 = wordsFrom ahead 0 + (if startsWord c ahead then 1 else 0) := by
  have hbehind : wordsFrom (c :: ahead) 1 = wordsFrom ahead 0 := wordsFrom_append [c] ahead
  rw [← hbehind, wordsFrom, wordsFrom, List.length_cons, Nat.sub_zero, List.range'_succ, List.countP_cons,
    wordAt_cons_zero, Nat.add_sub_cancel]

/-- The number of spaces that have been put in and of those to come. -/
def total (e : Edit) : Nat := e.spaces.length + wordsFrom e.text e.place

theorem total_eq_of_cut (read ahead : Text) (ht : e.text = read ++ ahead) (hp : e.place = read.length) :
    e.total = e.spaces.length + wordsFrom ahead 0 := by
  rw [total, ht, hp, wordsFrom_append]

theorem Step.total_eq (h : Step e e') : e'.total = e.total := by
  cases h with
  | @spaced read ahead c _ hw =>
    rw [total_eq_of_cut (read ++ [' ', c]) ahead (by simp) (by simp),
      total_eq_of_cut read (c :: ahead) rfl rfl, wordsFrom_cons, if_pos hw, List.length_cons]
    exact Nat.add_right_comm _ 1 _
  | @passed read ahead c _ hw =>
    rw [total_eq_of_cut (read ++ [c]) ahead (by simp) (by simp),
      total_eq_of_cut read (c :: ahead) rfl rfl, wordsFrom_cons, if_neg (by simp [hw])]
    rfl

/-! ## The whole text -/

/-- What steps keep from the beginning on holds at the end, where all of the text has been read. -/
theorem run_induction {P : Edit → Prop} (hstep : ∀ e e', P e → Step e e' → P e') (he : P e) :
    P e.run ∧ e.run.text.length ≤ e.run.place := by
  fun_induction run e with
  | case1 e h =>
    refine ⟨he, Nat.not_lt.1 fun hlt => ?_⟩
    unfold next? at h
    split at h
    · split at h <;> cases h
    · exact absurd hlt ‹_›
  | case2 e e' h ih => exact ih (hstep e e' he (step_of_next? h))

end Edit

open Edit in
/-- **`respace` spaces a text out as if it was changed while it is read**, from the second character on. The spaces that
have been put in stand at different places; without them, the text is the one it was; and there is one of them for each
word that begins behind the first character. -/
theorem respace_exact (v : Text) :
    respace v = (init v).run.text ∧
    (init v).run.spaces.Pairwise (· > ·) ∧ (∀ i ∈ (init v).run.spaces, (respace v)[i]? = some ' ') ∧
    (init v).run.spaces.foldl List.eraseIdx (respace v) = v ∧
    (init v).run.spaces.length = wordsFrom v 1 := by
  obtain ⟨⟨hout, hundoes, htotal⟩, hend⟩ := run_induction
    (P := fun e => e.outcome = (init v).outcome ∧ e.Undoes v ∧ e.total = (init v).total)
    (fun e e' he h => ⟨h.outcome_eq.trans he.1, h.undoes he.2.1, h.total_eq.trans he.2.2⟩)
    ⟨rfl, undoes_init v, rfl⟩
  have hinit : (init v).outcome = respace v := by cases v <;> rfl
  have htext : respace v = (init v).run.text := by
    rw [← hinit, ← hout, outcome, List.take_of_length_le hend, List.drop_eq_nil_of_le hend, spaced, List.append_nil]
  have hnone : wordsFrom (init v).run.text (init v).run.place = 0 := by
    rw [wordsFrom, Nat.sub_eq_zero_of_le hend]
    rfl
  have hcount : (init v).run.spaces.length = wordsFrom v 1 := by
    rw [total, hnone] at htotal
    exact htotal.trans (Nat.zero_add _)
  rw [htext]
  exact ⟨rfl, hundoes.descending, hundoes.space, hundoes.erased, hcount⟩

-- The space in front of an `x` moves the digit that makes it the beginning of a word.
example : (Edit.init "Ax2&x".toList).run = ⟨"A x2 &x".toList, 7, [4, 1]⟩ := by decide +kernel

end PageHarvest.Filter
