import PageHarvest.Proofs.Search
import PageHarvest.Proofs.Ink

/-!
# White space in front of ink

`Text.Spread P` puts white space in front of characters that are ink, at places that `P` admits; a place is what follows
it. `Text.Respaced P` changes the white space there at will, so that it may be put there, taken away or replaced. Neither
touches the ink.

A literal does not heed white space in front of ink, neither its own nor that of the content. Where it covers a content,
it leaves a rest that is respaced again, since white space that the end of a literal has left over stands in front of the
next ink (`after?_respaced`); where it is looked for, it is found behind the same gap (`find?_respaced`).

- `Literal.after?_spread`: white space in front of the ink of a literal.
- `Literal.after?_respaced`, `Literal.find?_respaced`: white space in front of ink of the content.
-/

namespace PageHarvest

open Text (isBlank ink ink_cons_of_blank ink_cons_of_not_blank)

namespace Text

/-- White space is put in front of characters that are ink, at places that `P` admits. -/
inductive Spread (P : Text → Prop) : Text → Text → Prop
  | nil : Spread P [] []
  | cons {c : Char} {x x' : Text} : Spread P x x' → Spread P (c :: x) (c :: x')
  | insert {b : Text} {c : Char} {x x' : Text} : ink b = [] → ¬ isBlank c = true → P (c :: x) → Spread P x x' →
      Spread P (c :: x) (b ++ c :: x')

/-- The white space in front of characters that are ink is changed, at places that `P` admits. -/
inductive Respaced (P : Text → Prop) : Text → Text → Prop
  | nil : Respaced P [] []
  | cons {c : Char} {x x' : Text} : Respaced P x x' → Respaced P (c :: x) (c :: x')
  | respace {b b' : Text} {c : Char} {x x' : Text} : ink b = [] → ink b' = [] → ¬ isBlank c = true → P (c :: x) →
      Respaced P x x' → Respaced P (b ++ c :: x) (b' ++ c :: x')

/-- Every place is admitted. -/
def Anywhere (_place : Text) : Prop := True

variable {P Q : Text → Prop} {x x' : Text}

theorem Spread.respaced (h : Spread P x x') : Respaced P x x' := by
  induction h with
  | nil => exact .nil
  | cons _ ih => exact .cons ih
  | insert hb hc hp _ ih => exact .respace (b := []) rfl hb hc hp ih

theorem Respaced.ink_eq (h : Respaced P x x') : ink x' = ink x := by
  induction h with
  | nil => rfl
  | @cons c x x' _ ih => simp only [ink, List.filter_cons] at ih ⊢; rw [ih]
  | @respace b b' c x x' hb hb' hc _ _ ih =>
    rw [ink_append, ink_append, hb, hb', ink_cons_of_not_blank hc, ink_cons_of_not_blank hc, ih]

theorem Respaced.ne_nil (h : Respaced P x x') (hx : x ≠ []) : x' ≠ [] := by
  cases h with
  | nil => exact absurd rfl hx
  | cons => exact List.cons_ne_nil _ _
  | respace => simp

/-- Only the places in the text matter. -/
theorem Respaced.mono (h : Respaced P x x') (hpq : ∀ m, m <:+ x → P m → Q m) : Respaced Q x x' := by
  induction h with
  | nil => exact .nil
  | cons _ ih => exact .cons (ih fun m hm => hpq m (hm.trans (List.suffix_cons _ _)))
  | @respace b b' c x x' hb hb' hc hp _ ih =>
    have hsuf : x <:+ b ++ c :: x := (List.suffix_cons c x).trans (List.suffix_append _ _)
    exact .respace hb hb' hc (hpq _ (List.suffix_append _ _) hp) (ih fun m hm => hpq m (hm.trans hsuf))

/-- Where no place is admitted, the text stays as it is. -/
theorem Respaced.eq_of_not (h : Respaced P x x') (hp : ∀ c m, c :: m <:+ x → ¬ isBlank c = true → ¬ P (c :: m)) :
    x' = x := by
  induction h with
  | nil => rfl
  | cons _ ih => rw [ih fun c m hm => hp c m (hm.trans (List.suffix_cons _ _))]
  | respace _ _ hc hpc => exact absurd hpc (hp _ _ (List.suffix_append _ _) hc)

/-- A text that is respaced keeps its front up to the first place that is admitted, unless that place has nothing but
white space in front of it. -/
theorem Respaced.of_append {gap m w : Text} (h : Respaced P (gap ++ m) w)
    (hink : ∀ g, g <:+ gap → g ≠ [] → ink g ≠ []) (hp : ∀ g, g <:+ gap → g ≠ [] → ¬ P (g ++ m)) :
    ∃ m', w = gap ++ m' ∧ Respaced P m m' := by
  induction gap generalizing w with
  | nil => exact ⟨w, rfl, h⟩
  | cons d gap ih =>
    have htail {g : Text} (hg : g <:+ gap) : g <:+ d :: gap := hg.trans (List.suffix_cons d gap)
    generalize hx : d :: gap ++ m = x at h
    cases h with
    | nil => cases hx
    | cons h =>
      obtain ⟨rfl, rfl⟩ := List.cons.inj hx
      obtain ⟨m', rfl, hm'⟩ := ih h (fun g hg => hink g (htail hg)) fun g hg => hp g (htail hg)
      exact ⟨m', rfl, hm'⟩
    | @respace b b' c x x' hb _ _ hpc _ =>
      -- the place lies in the gap, or the whole gap is white space in front of it
      have hgap : ink (d :: gap) ≠ [] := hink _ (List.suffix_refl _) (List.cons_ne_nil _ _)
      rcases List.append_eq_append_iff.1 hx with ⟨e, rfl, -⟩ | ⟨e, he, hm⟩
      · rw [ink_append] at hb
        exact absurd (List.append_eq_nil_iff.1 hb).1 hgap
      · by_cases hne : e = []
        · rw [hne, List.append_nil] at he
          exact absurd (he ▸ hb) hgap
        · rw [hm] at hpc
          exact absurd hpc (hp e ⟨b, he.symm⟩ hne)

end Text

namespace Literal

open Text (Spread Respaced)

variable {P : Text → Prop} {literal : Text}

/-! ## What a literal covers -/

/-- A literal covers text of its own ink. -/
theorem exists_front_of_after? {content rest : Text} (h : after? literal content = some rest) :
    ∃ front, content = front ++ rest ∧ ink front = ink literal := by
  fun_induction after? literal content with
  | case1 content =>
    cases h
    exact ⟨[], rfl, rfl⟩
  | case2 l ls hb =>
    cases h
    exact ⟨[], rfl, (Text.isBlankText_iff.1 hb).symm⟩
  | case3 => cases h
  | case4 ls c cs ih =>
    obtain ⟨front, rfl, hf⟩ := ih h
    refine ⟨c :: front, rfl, ?_⟩
    by_cases hc : isBlank c = true
    · rw [ink_cons_of_blank hc, ink_cons_of_blank hc, hf]
    · rw [ink_cons_of_not_blank hc, ink_cons_of_not_blank hc, hf]
  | case5 l ls c cs _ hc ih =>
    obtain ⟨front, rfl, hf⟩ := ih h
    exact ⟨c :: front, rfl, by rw [ink_cons_of_blank hc, hf]⟩
  | case6 l ls c cs _ _ hl ih =>
    obtain ⟨front, e, hf⟩ := ih h
    exact ⟨front, e, by rw [ink_cons_of_blank hl, hf]⟩
  | case7 => cases h

/-- A literal with ink covers something. -/
theorem length_after?_lt (hl : ink literal ≠ []) {content rest : Text} (h : after? literal content = some rest) :
    rest.length < content.length := by
  obtain ⟨front, rfl, hf⟩ := exists_front_of_after? h
  have hne : front ≠ [] := Text.ne_nil_of_ink (hf ▸ hl)
  have := List.length_pos_iff.2 hne
  rw [List.length_append]
  omega

/-- White space covers white space only. -/
theorem after?_of_blank (hl : ink literal = []) {c : Char} (hc : ¬ isBlank c = true) (x : Text) {b : Text}
    (hb : ink b = []) : ∃ b', ink b' = [] ∧ after? literal (b ++ c :: x) = some (b' ++ c :: x) := by
  have hs : (after? literal (b ++ c :: x)).isSome := by
    rw [after?_isSome_iff, hl]
    exact List.nil_prefix
  obtain ⟨rest, hr⟩ := Option.isSome_iff_exists.1 hs
  obtain ⟨front, hf, hfront⟩ := exists_front_of_after? hr
  rcases List.append_eq_append_iff.1 hf with ⟨e, he, hx⟩ | ⟨e, he, rfl⟩
  · cases e with
    | nil => exact ⟨[], rfl, by rw [hr, hx]; rfl⟩
    | cons d e =>
      -- what is covered holds no ink
      obtain ⟨rfl, -⟩ := List.cons.inj hx
      rw [hl, he, Text.ink_append, ink_cons_of_not_blank hc] at hfront
      simp at hfront
  · rw [he, Text.ink_append] at hb
    exact ⟨e, (List.append_eq_nil_iff.1 hb).2, hr⟩

/-- What a literal without ink covers is not ink. -/
theorem isBlank_of_after? (hl : ink literal = []) {content rest m : Text} {c : Char}
    (h : after? literal content = some rest) (hm : c :: m <:+ content) (hlt : rest.length < (c :: m).length) :
    isBlank c = true := by
  obtain ⟨front, rfl, hfront⟩ := exists_front_of_after? h
  obtain ⟨before, hb⟩ := hm
  rcases List.append_eq_append_iff.1 hb with ⟨e, rfl, he⟩ | ⟨e, -, he⟩
  · cases e with
    | nil =>
      rw [he, List.nil_append] at hlt
      exact absurd hlt (lt_irrefl _)
    | cons d e =>
      obtain ⟨rfl, -⟩ := List.cons.inj he
      exact Text.ink_eq_nil_iff.1 (hfront.trans hl) c (by simp)
  · rw [he, List.length_append] at hlt
    omega

/-! ## White space in a literal -/

/-- A character in front of literals that match alike. -/
theorem after?_cons_congr {l l' : Text} (h : ∀ content, after? l content = after? l' content) (c : Char)
    (content : Text) : after? (c :: l) content = after? (c :: l') content := by
  have hink : ink l = [] ↔ ink l' = [] := by
    have hnil := congrArg Option.isSome (h [])
    rw [Bool.eq_iff_iff, after?_isSome_iff, after?_isSome_iff] at hnil
    simpa using hnil
  induction content with
  | nil =>
    have hall : (c :: l).all isBlank = (c :: l').all isBlank := by
      rw [List.all_cons, List.all_cons, Bool.eq_iff_iff, Bool.and_eq_true, Bool.and_eq_true]
      exact and_congr_right fun _ => Text.isBlankText_iff.trans (hink.trans Text.isBlankText_iff.symm)
    rw [after?, after?, hall]
  | cons d content ih => rw [after?, after?, h content, ih, h (d :: content)]

/-- **White space in front of the ink of a literal does not matter.** -/
theorem after?_spread {literal' : Text} (h : Spread P literal literal') (content : Text) :
    after? literal' content = after? literal content := by
  induction h generalizing content with
  | nil => rfl
  | cons _ ih => exact after?_cons_congr ih _ content
  | @insert b c x x' hb hc _ hx ih =>
    have hink : ink (b ++ c :: x') = ink (c :: x) := by
      rw [Text.ink_append, hb, ink_cons_of_not_blank hc, ink_cons_of_not_blank hc, hx.respaced.ink_eq]
      rfl
    by_cases hs : ink (c :: x) <+: ink content
    · -- the first ink of the content is `c`, and behind it the two literals match alike
      have hne : ink content ≠ [] := by
        intro e
        rw [e, ink_cons_of_not_blank hc] at hs
        simp at hs
      obtain ⟨s, d, r, rfl, hsb, hd⟩ := Text.exists_first_ink hne
      have hcd : c = d := by
        rw [Text.ink_append, hsb, ink_cons_of_not_blank hc, ink_cons_of_not_blank hd] at hs
        exact (List.cons_prefix_cons.1 hs).1
      subst hcd
      rw [after?_of_ink_eq hc x' r (hb.trans hsb.symm), ih r]
      exact (after?_of_ink_eq hc x r (a := []) hsb.symm).symm
    · rw [after?_eq_none_iff.2 (hink ▸ hs), after?_eq_none_iff.2 hs]

/-! ## White space in the content -/

/-- **White space in front of ink of the content does not matter** to a literal at its beginning. -/
theorem after?_respaced {content content' rest : Text} (h : Respaced P content content')
    (ha : after? literal content = some rest) :
    ∃ rest', after? literal content' = some rest' ∧ Respaced P rest rest' := by
  induction h generalizing literal with
  | nil =>
    have hrest : rest = [] := List.suffix_nil.1 (after?_suffix ha)
    exact ⟨rest, ha, hrest ▸ .nil⟩
  | @cons c x x' hx ih =>
    induction literal with
    | nil =>
      rw [after?] at ha ⊢
      exact ⟨_, rfl, Option.some.inj ha ▸ hx.cons⟩
    | cons l ls ihl =>
      rw [after?] at ha ⊢
      by_cases hcl : c = l
      · rw [if_pos hcl] at ha ⊢
        exact ih ha
      rw [if_neg hcl] at ha ⊢
      by_cases hc : isBlank c = true
      · rw [if_pos hc] at ha ⊢
        exact ih ha
      rw [if_neg hc] at ha ⊢
      by_cases hl : isBlank l = true
      · rw [if_pos hl] at ha ⊢
        exact ihl ha
      · rw [if_neg hl] at ha
        cases ha
  | @respace b b' c x x' hb hb' hc hp hx ih =>
    by_cases hl : ink literal = []
    · obtain ⟨w, hw, hr⟩ := after?_of_blank hl hc x hb
      obtain ⟨w', hw', hr'⟩ := after?_of_blank hl hc x' hb'
      cases ha.symm.trans hr
      exact ⟨_, hr', .respace hw hw' hc hp hx⟩
    · obtain ⟨s, d, r, rfl, hs, hd⟩ := Text.exists_first_ink hl
      have hpre : ink (s ++ d :: r) <+: ink (b ++ c :: x) := after?_isSome_iff.1 (by simp [ha])
      have hdc : d = c := by
        rw [Text.ink_append, Text.ink_append, hs, hb, ink_cons_of_not_blank hd, ink_cons_of_not_blank hc] at hpre
        exact (List.cons_prefix_cons.1 hpre).1
      subst hdc
      rw [after?_of_ink_eq hc r x (hs.trans hb.symm)] at ha
      rw [after?_of_ink_eq hc r x' (hs.trans hb'.symm)]
      exact ih ha

theorem length_find?_lt (hl : ink literal ≠ []) {content gap rest : Text}
    (h : find? literal content = some (gap, rest)) : rest.length < content.length := by
  obtain ⟨m, rfl, -, ha, -⟩ := find?_eq_some_iff.1 h
  exact (length_after?_lt hl ha).trans_le (List.suffix_append _ _).length_le

/-- A literal with ink is found exactly if its ink stands somewhere in the ink of the content. -/
theorem find?_isSome_iff (hl : ink literal ≠ []) {content : Text} :
    (find? literal content).isSome ↔ ink literal <:+: ink content := by
  induction content with
  | nil => simpa using hl
  | cons c content ih =>
    have hstep : (find? literal (c :: content)).isSome ↔
        ink literal <+: ink (c :: content) ∨ (find? literal content).isSome := by
      rw [← after?_isSome_iff]
      cases ha : after? literal (c :: content) with
      | some rest => simp [find?_of_after? (List.cons_ne_nil _ _) ha]
      | none => simp [find?_of_after?_eq_none ha]
    rw [hstep, ih]
    by_cases hc : isBlank c = true
    · rw [ink_cons_of_blank hc]
      exact ⟨fun h => h.elim List.IsPrefix.isInfix id, .inr⟩
    · rw [ink_cons_of_not_blank hc, List.infix_cons_iff]

/-- A blank literal is found wherever there is anything. -/
theorem find?_eq_none_iff_of_blank (hl : ink literal = []) {content : Text} :
    find? literal content = none ↔ content = [] := by
  refine ⟨fun h => ?_, fun h => h ▸ rfl⟩
  by_contra hne
  have ha := find?_eq_none_iff.1 h content (List.suffix_refl _) hne
  rw [after?_eq_none_iff, hl] at ha
  exact ha List.nil_prefix

theorem find?_eq_none_respaced {content content' : Text} (h : Respaced P content content')
    (hf : find? literal content = none) : find? literal content' = none := by
  by_cases hl : ink literal = []
  · cases (find?_eq_none_iff_of_blank hl).1 hf
    exact (h.eq_of_not fun c m hm => by simp at hm) ▸ rfl
  · rw [← Option.not_isSome_iff_eq_none, find?_isSome_iff hl] at hf ⊢
    rwa [h.ink_eq]

/-- **A literal is found behind the same gap** if the white space in the gap is left alone. -/
theorem find?_respaced {content content' gap rest : Text} (h : Respaced P content content')
    (hf : find? literal content = some (gap, rest))
    (hp : ∀ g, g <:+ gap → g ≠ [] → ¬ P (g ++ content.drop gap.length)) :
    ∃ rest', find? literal content' = some (gap, rest') ∧ Respaced P rest rest' := by
  obtain ⟨m, rfl, hm, hr, hfirst⟩ := find?_eq_some_iff.1 hf
  rw [List.drop_left] at hp
  have hpre : ink literal <+: ink m := after?_isSome_iff.1 (by simp [hr])
  have hink (g : Text) (hg : g <:+ gap) (hne : g ≠ []) : ink g ≠ [] := by
    intro e
    have hnone := hfirst g hg hne
    rw [after?_eq_none_iff, Text.ink_append, e] at hnone
    exact hnone hpre
  obtain ⟨m', rfl, hm'⟩ := h.of_append hink hp
  obtain ⟨rest', hr', hrest⟩ := after?_respaced hm' hr
  refine ⟨rest', find?_eq_some_iff.2 ⟨m', rfl, hm'.ne_nil hm, hr', fun g hg hne => ?_⟩, hrest⟩
  have hnone := hfirst g hg hne
  rw [after?_eq_none_iff, Text.ink_append] at hnone ⊢
  rwa [hm'.ink_eq]

end Literal

end PageHarvest
