import PageHarvest.Text.Basic

/-!
# Places in a text

A place in a text is told by the number of bytes in front of it. Only the places between characters can be cut at
(`Text.IsBoundary`). `Text.RestAt t n rest` says that the text goes on with `rest` behind its first `n` bytes.

- `isBoundary_iff`: a text can be cut where it goes on with something.
- `RestAt.mono`: the shorter rest stands at the greater place.
- `RestAt.eq`: at one place there stands one rest.
-/

namespace PageHarvest.Text

/-- The place `n` lies in front of a character of the text or at its end, so that the text can be cut there. -/
def IsBoundary (t : Text) (n : Nat) : Prop := String.Pos.Raw.IsValid (String.ofList t) ⟨n⟩

/-- Behind its first `n` bytes the text goes on with `rest`. -/
def RestAt (t : Text) (n : Nat) (rest : Text) : Prop := ∃ front, t = front ++ rest ∧ size front = n

variable {t rest rest' : Text} {m n : Nat}

theorem utf8ByteSize_ofList (t : Text) : (String.ofList t).utf8ByteSize = size t := by
  rw [← length_bytes, ← String.size_toByteArray, String.toByteArray_ofList, ← List.size_toByteArray]
  rfl

/-- A text can be cut where it goes on with something, and nowhere else. -/
theorem isBoundary_iff : t.IsBoundary n ↔ ∃ rest, t.RestAt n rest := by
  rw [IsBoundary, String.Pos.Raw.isValid_ofList]
  constructor
  · rintro ⟨i, hi⟩
    exact ⟨t.drop i, t.take i, (List.take_append_drop i t).symm, by rw [← utf8ByteSize_ofList]; exact hi.symm⟩
  · rintro ⟨rest, front, rfl, rfl⟩
    exact ⟨front.length, by rw [List.take_left, utf8ByteSize_ofList]⟩

theorem RestAt.isBoundary (h : t.RestAt n rest) : t.IsBoundary n := isBoundary_iff.2 ⟨rest, h⟩

theorem RestAt.size_eq (h : t.RestAt n rest) : size t = n + size rest := by
  obtain ⟨front, rfl, rfl⟩ := h
  exact size_append front rest

theorem RestAt.le_size (h : t.RestAt n rest) : n ≤ size t := h.size_eq ▸ Nat.le_add_right n _

/-- Each end part of a text stands at some place. -/
theorem exists_restAt (h : rest <:+ t) : ∃ n, t.RestAt n rest := by
  obtain ⟨front, rfl⟩ := h
  exact ⟨size front, front, rfl, rfl⟩

/-- The shorter rest stands at the greater place. -/
theorem RestAt.mono (h : t.RestAt m rest) (h' : t.RestAt n rest') (hr : rest' <:+ rest) : m ≤ n := by
  have hsize := h.size_eq
  have hsize' := h'.size_eq
  obtain ⟨more, rfl⟩ := hr
  rw [size_append] at hsize
  omega

theorem length_le_size (t : Text) : t.length ≤ size t := by
  induction t with
  | nil => exact Nat.le_refl 0
  | cons c t ih =>
    have := c.utf8Size_pos
    rw [List.length_cons, size_cons]
    omega

theorem eq_nil_of_size_eq_zero (h : size t = 0) : t = [] := by
  have hlength := length_le_size t
  exact List.length_eq_zero_iff.1 (by omega)

/-- At one place there stands one rest. -/
theorem RestAt.eq (h : t.RestAt n rest) (h' : t.RestAt n rest') : rest = rest' := by
  have hsize := h.size_eq
  have hsize' := h'.size_eq
  obtain ⟨front, hfront, -⟩ := h
  obtain ⟨front', hfront', -⟩ := h'
  -- of two ends of a text the longer one ends in the shorter one
  rcases List.suffix_or_suffix_of_suffix ⟨front, hfront.symm⟩ ⟨front', hfront'.symm⟩ with ⟨more, rfl⟩ | ⟨more, rfl⟩
  · rw [size_append] at hsize'
    rw [eq_nil_of_size_eq_zero (t := more) (by omega), List.nil_append]
  · rw [size_append] at hsize
    rw [eq_nil_of_size_eq_zero (t := more) (by omega), List.nil_append]

end PageHarvest.Text
