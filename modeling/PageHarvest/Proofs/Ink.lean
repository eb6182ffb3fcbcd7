import PageHarvest.Extraction.Literal

/-!
# Ink

The ink of a text is what is left when its white space is taken away. Whether a literal stands at the beginning of a
content is a matter of ink alone (`after?_isSome_iff`); how much of the content it covers is not.

- `after?_append_self`: a literal covers its own text exactly.
- `after?_of_ink_eq`: what stands behind the last common character that is ink is covered as if nothing stood in front.
- `after?_blank_append`: white space in front of a content is of no account to a literal with ink.
- `after?_append`: with more content at the end the literal still stands there, and covers the same unless it has
  reached the end before.
-/

namespace PageHarvest

namespace Text

/-- The characters of a text that are not white space. -/
def ink (t : Text) : Text := t.filter fun c => !isBlank c

@[simp] theorem ink_nil : ink [] = [] := rfl

theorem ink_cons_of_blank {c : Char} (h : isBlank c = true) (t : Text) : ink (c :: t) = ink t := by
  simp [ink, h]

theorem ink_cons_of_not_blank {c : Char} (h : ¬ isBlank c = true) (t : Text) : ink (c :: t) = c :: ink t := by
  simp [ink, h]

@[simp] theorem ink_append (s t : Text) : ink (s ++ t) = ink s ++ ink t := List.filter_append ..

theorem ink_eq_nil_iff {t : Text} : ink t = [] ↔ ∀ c ∈ t, isBlank c = true := by
  simp [ink]

theorem ne_nil_of_ink {t : Text} (h : ink t ≠ []) : t ≠ [] := by
  rintro rfl
  exact h rfl

theorem isBlankText_iff {t : Text} : isBlankText t = true ↔ ink t = [] := by
  simp [isBlankText, ink_eq_nil_iff]

theorem mem_of_mem_ink {c : Char} {t : Text} (h : c ∈ ink t) : c ∈ t := (List.mem_filter.1 h).1

/-- A text with ink is white space, its first character that is ink, and the rest. -/
theorem exists_first_ink {t : Text} (h : ink t ≠ []) :
    ∃ s c r, t = s ++ c :: r ∧ ink s = [] ∧ ¬ isBlank c = true := by
  induction t with
  | nil => exact absurd rfl h
  | cons c t ih =>
    by_cases hc : isBlank c = true
    · rw [ink_cons_of_blank hc] at h
      obtain ⟨s, d, r, rfl, hs, hd⟩ := ih h
      exact ⟨c :: s, d, r, rfl, by rw [ink_cons_of_blank hc, hs], hd⟩
    · exact ⟨[], c, t, rfl, rfl, hc⟩

/-- Where the ink of a content begins with the ink of `s` and one more character, the content can be cut there. -/
theorem exists_cut_of_ink_prefix {s content : Text} {c : Char} (h : ink s ++ [c] <+: ink content) :
    ∃ front rest, content = front ++ c :: rest ∧ ink front = ink s := by
  obtain ⟨more, hmore⟩ := h
  have hsplit : content.filter (fun c => !isBlank c) = ink s ++ c :: more := by
    rw [← List.append_cons] at hmore
    exact hmore.symm
  obtain ⟨x, y, rfl, hx, hy⟩ := List.filter_eq_append_iff.1 hsplit
  obtain ⟨b, rest, rfl, hb, -, -⟩ := List.filter_eq_cons_iff.1 hy
  have hblank : ink b = [] := by simpa [ink_eq_nil_iff] using hb
  refine ⟨x ++ b, rest, by rw [List.append_assoc], ?_⟩
  have hfront : ink x = ink s := hx
  rw [ink_append, hblank, List.append_nil, hfront]

/-- A text with ink is its last character that is ink, what stands in front of it, and white space. -/
theorem exists_last_ink {t : Text} (h : ink t ≠ []) : ∃ s c b, t = s ++ c :: b ∧ ¬ isBlank c = true ∧ ink b = [] := by
  have hrev (x : Text) : ink x.reverse = (ink x).reverse := List.filter_reverse ..
  have h' : ink t.reverse ≠ [] := by simpa [hrev] using h
  obtain ⟨b, c, s, ht, hb, hc⟩ := exists_first_ink h'
  refine ⟨s.reverse, c, b.reverse, ?_, hc, by rw [hrev, hb, List.reverse_nil]⟩
  rw [← List.reverse_inj, ht]
  simp

end Text

namespace Literal

open Text (isBlank ink ink_cons_of_blank ink_cons_of_not_blank)

/-- **A literal stands at the beginning of a content exactly if the content's ink begins with its ink.** -/
theorem after?_isSome_iff {literal content : Text} :
    (after? literal content).isSome ↔ ink literal <+: ink content := by
  fun_induction after? literal content with
  | case1 content => simp
  | case2 l ls h => simpa using Text.isBlankText_iff.1 h
  | case3 l ls h => simpa using fun e => h (Text.isBlankText_iff.2 e)
  | case4 ls l cs ih =>
    by_cases hl : isBlank l = true
    · rw [ih, ink_cons_of_blank hl, ink_cons_of_blank hl]
    · rw [ih, ink_cons_of_not_blank hl, ink_cons_of_not_blank hl, List.cons_prefix_cons, and_iff_right rfl]
  | case5 l ls c cs _ hc ih => rw [ih, ink_cons_of_blank hc]
  | case6 l ls c cs _ _ hl ih => rw [ih, ink_cons_of_blank hl]
  | case7 l ls c cs hne hc hl =>
    rw [ink_cons_of_not_blank hc, ink_cons_of_not_blank hl, List.cons_prefix_cons]
    simp [Ne.symm hne]

theorem after?_eq_none_iff {literal content : Text} : after? literal content = none ↔ ¬ ink literal <+: ink content := by
  rw [← after?_isSome_iff, Option.not_isSome_iff_eq_none]

/-- A literal covers its own text, white space included. -/
theorem after?_append_self (literal rest : Text) : after? literal (literal ++ rest) = some rest := by
  induction literal with
  | nil => rw [List.nil_append, after?]
  | cons l ls ih => rw [List.cons_append, after?, if_pos rfl, ih]

/-- A literal and a content that have the same ink up to a character which is ink: the match goes on behind it. -/
theorem after?_of_ink_eq {c : Char} (hc : ¬ isBlank c = true) (t content : Text) : ∀ {a b : Text}, ink a = ink b →
    after? (a ++ c :: t) (b ++ c :: content) = after? t content
  | [], [], _ => by rw [List.nil_append, List.nil_append, after?, if_pos rfl]
  | [], y :: b, h => by
    have hy : isBlank y = true := Text.ink_eq_nil_iff.1 h.symm y List.mem_cons_self
    have hne : ¬ y = c := fun e => hc (e ▸ hy)
    rw [ink_cons_of_blank hy] at h
    rw [List.nil_append, List.cons_append, after?, if_neg hne, if_pos hy]
    exact after?_of_ink_eq hc t content h
  | x :: a, [], h => by
    have hx : isBlank x = true := Text.ink_eq_nil_iff.1 h x List.mem_cons_self
    have hne : ¬ c = x := fun e => hc (e ▸ hx)
    rw [ink_cons_of_blank hx] at h
    rw [List.nil_append, List.cons_append, after?, if_neg hne, if_neg hc, if_pos hx]
    exact after?_of_ink_eq (a := a) (b := []) hc t content h
  | x :: a, y :: b, h => by
    rw [List.cons_append, List.cons_append, after?]
    by_cases hxy : y = x
    · subst hxy
      rw [if_pos rfl]
      by_cases hy : isBlank y = true
      · rw [ink_cons_of_blank hy, ink_cons_of_blank hy] at h
        exact after?_of_ink_eq hc t content h
      · rw [ink_cons_of_not_blank hy, ink_cons_of_not_blank hy] at h
        exact after?_of_ink_eq hc t content (List.cons.inj h).2
    rw [if_neg hxy]
    by_cases hy : isBlank y = true
    · rw [ink_cons_of_blank hy] at h
      rw [if_pos hy, ← List.cons_append]
      exact after?_of_ink_eq hc t content h
    · by_cases hx : isBlank x = true
      · rw [ink_cons_of_blank hx] at h
        rw [if_neg hy, if_pos hx, ← List.cons_append]
        exact after?_of_ink_eq hc t content h
      · rw [ink_cons_of_not_blank hy, ink_cons_of_not_blank hx] at h
        exact absurd (List.cons.inj h).1.symm hxy
termination_by a b => a.length + b.length

/-- White space in front of a content is of no account to a literal with ink. -/
theorem after?_blank_append {literal : Text} (hl : ink literal ≠ []) {b : Text} (hb : ink b = []) (content : Text) :
    after? literal (b ++ content) = after? literal content := by
  obtain ⟨s, c, r, rfl, hs, hc⟩ := Text.exists_first_ink hl
  by_cases h : ink (s ++ c :: r) <+: ink content
  · have hfirst : ink s ++ [c] <+: ink content := by
      refine List.IsPrefix.trans ?_ h
      rw [Text.ink_append, ink_cons_of_not_blank hc]
      exact List.prefix_append_right_inj _ |>.2 ⟨ink r, rfl⟩
    obtain ⟨front, rest, rfl, hf⟩ := Text.exists_cut_of_ink_prefix hfirst
    have hbf : ink s = ink (b ++ front) := by rw [Text.ink_append, hb, List.nil_append, hf]
    rw [← List.append_assoc, after?_of_ink_eq hc r rest hbf, after?_of_ink_eq hc r rest hf.symm]
  · have h' : ¬ ink (s ++ c :: r) <+: ink (b ++ content) := by rwa [Text.ink_append b, hb, List.nil_append]
    rw [after?_eq_none_iff.2 h, after?_eq_none_iff.2 h']

/-- More content at the end: the literal still stands at the beginning, and covers the same unless it reached the end. -/
theorem after?_append {literal content rest : Text} (h : after? literal content = some rest) (more : Text) :
    ∃ rest', after? literal (content ++ more) = some rest' ∧ (rest ≠ [] → rest' = rest ++ more) := by
  have hs : (after? literal (content ++ more)).isSome := by
    have hp : ink literal <+: ink content := after?_isSome_iff.1 (by simp [h])
    rw [after?_isSome_iff, Text.ink_append]
    exact hp.trans (List.prefix_append _ _)
  obtain ⟨rest', hr⟩ := Option.isSome_iff_exists.1 hs
  refine ⟨rest', hr, fun hne => ?_⟩
  clear hs
  fun_induction after? literal content with
  | case1 content =>
    cases h
    rw [after?] at hr
    exact (Option.some.inj hr).symm
  | case2 => cases h; exact absurd rfl hne
  | case3 => cases h
  | case4 ls c cs ih =>
    rw [List.cons_append, after?, if_pos rfl] at hr
    exact ih h hr
  | case5 l ls c cs hcl hc ih =>
    rw [List.cons_append, after?, if_neg hcl, if_pos hc] at hr
    exact ih h hr
  | case6 l ls c cs hcl hc hl ih =>
    rw [List.cons_append, after?, if_neg hcl, if_neg hc, if_pos hl] at hr
    exact ih h hr
  | case7 => cases h

end Literal

end PageHarvest
