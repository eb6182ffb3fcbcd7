import PageHarvest.Proofs.Spacing

/-!
# How far a literal reaches

Whether a literal stands at the beginning of a content is a matter of ink alone (`Literal.after?_isSome_iff`). How
much of the content it covers is told in two parts. Up to the last ink of the literal it covers as much as it needs
(`after?_ink_iff`). Behind that, the white space at its end is matched against what follows, as a literal of its own
(`after?_literal_append`), and this is the only part that depends on which white space stands where (`swallowed`).

- `consumed?_exact`: when a literal matches, and how many bytes it covers.
-/

namespace PageHarvest

open Text (isBlank ink)

namespace Literal

/-- **A literal is matched piece by piece:** its second piece is matched against what the first one leaves. -/
theorem after?_literal_append (s t content : Text) :
    after? (s ++ t) content = (after? s content).bind (after? t) := by
  fun_induction after? s content with
  | case1 content => rfl
  | case2 l ls hb =>
    obtain ⟨hl, hls⟩ : isBlank l = true ∧ ls.all isBlank = true := by simpa using hb
    rw [List.cons_append, after?, Option.bind_some]
    cases t with
    | nil => simp [after?, hl, hls]
    | cons d t => simp [after?, hl, hls]
  | case3 l ls hb =>
    have hall : ¬ ((l :: ls) ++ t).all isBlank = true := by
      rw [List.all_append, Bool.and_eq_true]
      exact fun h => hb h.1
    rw [List.cons_append] at hall ⊢
    rw [after?, if_neg hall]
    rfl
  | case4 ls c cs ih => rw [List.cons_append, after?, if_pos rfl, ih]
  | case5 l ls c cs hcl hc ih => rw [List.cons_append, after?, if_neg hcl, if_pos hc, ← List.cons_append, ih]
  | case6 l ls c cs hcl hc hl ih => rw [List.cons_append, after?, if_neg hcl, if_neg hc, if_pos hl, ih]
  | case7 l ls c cs hcl hc hl =>
    rw [List.cons_append, after?, if_neg hcl, if_neg hc, if_neg hl]
    rfl

/-- Up to its last ink a literal covers what has the same ink, and ends with that character. -/
theorem after?_ink_iff {s content rest : Text} {c : Char} (hc : ¬ isBlank c = true) :
    after? (s ++ [c]) content = some rest ↔ ∃ front, content = front ++ c :: rest ∧ ink front = ink s := by
  constructor
  · intro h
    have hink : ink (s ++ [c]) = ink s ++ [c] := by rw [Text.ink_append, Text.ink_cons_of_not_blank hc, Text.ink_nil]
    have hpre : ink s ++ [c] <+: ink content := by
      rw [← hink, ← after?_isSome_iff, h]
      rfl
    obtain ⟨front, rest', rfl, hf⟩ := Text.exists_cut_of_ink_prefix hpre
    rw [after?_of_ink_eq hc [] rest' hf.symm, after?] at h
    cases h
    exact ⟨front, rfl, hf⟩
  · rintro ⟨front, rfl, hf⟩
    rw [after?_of_ink_eq hc [] rest hf.symm, after?]

/-- The number of bytes that white space at the end of a literal covers of what follows the last ink. -/
def swallowed (blank content : Text) : Nat := (consumed? blank content).getD 0

/-- White space matches everywhere. -/
theorem exists_after?_of_blank {blank : Text} (hb : ink blank = []) (content : Text) :
    ∃ rest, after? blank content = some rest := by
  rw [← Option.isSome_iff_exists, after?_isSome_iff, hb]
  exact List.nil_prefix

theorem swallowed_nil (content : Text) : swallowed [] content = 0 := by
  simp [swallowed, consumed?, after?]

theorem swallowed_append_self (blank more : Text) : swallowed blank (blank ++ more) = Text.size blank := by
  simp [swallowed, consumed?, after?_append_self]

/-- The bytes that a literal covers: up to its last ink, and behind it. -/
theorem consumed?_iff {s t content : Text} {c : Char} {k : Nat} (hc : ¬ isBlank c = true) (ht : ink t = []) :
    consumed? (s ++ c :: t) content = some k ↔ ∃ front rest, content = front ++ c :: rest ∧ ink front = ink s ∧
      k = Text.size (front ++ [c]) + swallowed t rest := by
  have hbytes {front rest : Text} (hf : ink front = ink s) : consumed? (s ++ c :: t) (front ++ c :: rest) =
      some (Text.size (front ++ [c]) + swallowed t rest) := by
    obtain ⟨rest', hr⟩ := exists_after?_of_blank ht rest
    have hle : Text.size rest' ≤ Text.size rest := by
      obtain ⟨b, rfl⟩ := after?_suffix hr
      rw [Text.size_append]
      omega
    rw [consumed?, after?_of_ink_eq hc t rest hf.symm, hr, swallowed, consumed?, hr]
    simp only [Option.map_some, Option.getD_some, Text.size_append, Text.size_cons, Text.size_nil, Option.some.injEq]
    omega
  constructor
  · intro h
    have hs : (after? (s ++ [c]) content).isSome := by
      obtain ⟨rest, hr, -⟩ := Option.map_eq_some_iff.1 h
      rw [List.append_cons, after?_literal_append] at hr
      obtain ⟨m, hm, -⟩ := Option.bind_eq_some_iff.1 hr
      rw [hm]
      rfl
    obtain ⟨m, hm⟩ := Option.isSome_iff_exists.1 hs
    obtain ⟨front, rfl, hf⟩ := (after?_ink_iff hc).1 hm
    rw [hbytes hf] at h
    exact ⟨front, m, rfl, hf, (Option.some.inj h).symm⟩
  · rintro ⟨front, rest, rfl, hf, rfl⟩
    exact hbytes hf

/-- **When a literal matches, and how far it reaches.** It matches exactly if the ink of the content begins with its
ink. What it covers are whole characters at the beginning of the content, with the ink of the literal and no other. If
it has ink, it covers the content up to the character that is matched by its last ink, and behind that what the white
space at its end takes of the rest. That is nothing if there is no such white space, and all of it if the content goes
on with the same white space. -/
theorem consumed?_exact (literal content : Text) :
    ((consumed? literal content).isSome ↔ ink literal <+: ink content) ∧
    (∀ k, consumed? literal content = some k → ∃ front rest, content = front ++ rest ∧ k = Text.size front ∧
      k ≤ Text.size content ∧ ink front = ink literal) ∧
    (ink literal ≠ [] → ∃ s c blank, literal = s ++ c :: blank ∧ ¬ isBlank c = true ∧ ink blank = [] ∧
      ∀ k, consumed? literal content = some k ↔ ∃ front rest, content = front ++ c :: rest ∧ ink front = ink s ∧
        k = Text.size (front ++ [c]) + swallowed blank rest ∧ (blank = [] → swallowed blank rest = 0) ∧
        (blank <+: rest → swallowed blank rest = Text.size blank)) := by
  refine ⟨?_, fun k hk => ?_, fun hl => ?_⟩
  · rw [consumed?, Option.isSome_map, after?_isSome_iff]
  · obtain ⟨rest, hr, rfl⟩ := Option.map_eq_some_iff.1 hk
    obtain ⟨front, rfl, hf⟩ := exists_front_of_after? hr
    exact ⟨front, rest, rfl, by simp, by omega, hf⟩
  · obtain ⟨s, c, blank, rfl, hc, hb⟩ := Text.exists_last_ink hl
    refine ⟨s, c, blank, rfl, hc, hb, fun k => ?_⟩
    have hamount (rest : Text) : (blank = [] → swallowed blank rest = 0) ∧
        (blank <+: rest → swallowed blank rest = Text.size blank) := by
      constructor
      · rintro rfl
        exact swallowed_nil rest
      · rintro ⟨more, rfl⟩
        exact swallowed_append_self blank more
    rw [consumed?_iff hc hb]
    constructor
    · rintro ⟨front, rest, e, hf, hk⟩
      exact ⟨front, rest, e, hf, hk, hamount rest⟩
    · rintro ⟨front, rest, e, hf, hk, -⟩
      exact ⟨front, rest, e, hf, hk⟩

-- The space at the end of the literal takes one of the two spaces, a line break takes both.
example : consumed? "<b> ".toList "< b>  v".toList = some 5 ∧ consumed? "<b>\n".toList "< b>  v".toList = some 6 := by
  decide +kernel

end Literal

end PageHarvest
