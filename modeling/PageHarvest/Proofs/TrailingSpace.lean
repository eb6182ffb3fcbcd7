import PageHarvest.Proofs.LengthenedTemplate
import PageHarvest.Proofs.RawValue
import PageHarvest.Proofs.Reach

/-!
# White space at the end of a literal

White space in front of the ink of a literal does not matter (`extract_spread`). At the end of a literal that stands
in front of a placeholder it does: matching pairs it with the white space that follows in the content, which then is
not part of the captured value any more. So such a literal takes white space from the beginning of the value behind
it, and nothing else changes.

- `Literal.spared`: what is left of the value; `Literal.spared_eq_self_iff`: when that is all of it.
- `Segment.pass?_append_blank`: one pass with and without white space at the end of a literal.
- `extract_lengthened`: the records with and without it, and when they are the same.
- `extract_lengthened_ne`: they need not be.
-/

namespace PageHarvest

open Text (isBlank ink)

/-! ## What white space leaves of a value -/

namespace Literal

/-- What white space at the end of a literal leaves of the value behind it. -/
def spared (blank value : Text) : Text := (after? blank value).getD value

variable {blank : Text} (hb : ink blank = [])
include hb

theorem after?_eq_spared (value : Text) : after? blank value = some (spared blank value) := by
  obtain ⟨rest, hr⟩ := exists_after?_of_blank hb value
  rw [spared, hr, Option.getD_some]

/-- White space is taken from the beginning of the value. -/
theorem exists_blank_append_spared (value : Text) : ∃ b, value = b ++ spared blank value ∧ ink b = [] := by
  obtain ⟨b, hv, hf⟩ := exists_front_of_after? (after?_eq_spared hb value)
  exact ⟨b, hv, hf.trans hb⟩

theorem ink_spared (value : Text) : ink (spared blank value) = ink value := by
  obtain ⟨b, hv, hink⟩ := exists_blank_append_spared hb value
  conv_rhs => rw [hv, Text.ink_append, hink, List.nil_append]

theorem spared_nil : spared blank [] = [] := by
  have hs := after?_suffix (after?_eq_spared hb [])
  exact List.suffix_nil.1 hs

/-- What stands behind the first ink is spared. -/
theorem spared_append {gap : Text} (hg : ink gap ≠ []) (m : Text) :
    spared blank (gap ++ m) = spared blank gap ++ m := by
  have hne : spared blank gap ≠ [] := Text.ne_nil_of_ink (by rwa [ink_spared hb])
  obtain ⟨rest, hr, hrest⟩ := after?_append (after?_eq_spared hb gap) m
  rw [hrest hne, after?_eq_spared hb] at hr
  exact Option.some.inj hr

/-- A value is left alone exactly if there is no white space to take, or none that takes it. -/
theorem spared_eq_self_iff (value : Text) :
    spared blank value = value ↔ blank = [] ∨ ∀ c v, value = c :: v → ¬ isBlank c = true := by
  constructor
  · intro h
    by_contra hn
    obtain ⟨hne, hn⟩ := not_or.1 hn
    push Not at hn
    obtain ⟨c, v, rfl, hc⟩ := hn
    obtain ⟨d, blank, rfl⟩ := List.exists_cons_of_ne_nil hne
    have ha := after?_eq_spared hb (c :: v)
    -- the first character is covered in any case
    have hle : (spared (d :: blank) (c :: v)).length ≤ v.length := by
      rw [after?] at ha
      by_cases hcd : c = d
      · rw [if_pos hcd] at ha
        exact length_after?_le ha
      · rw [if_neg hcd, if_pos hc] at ha
        exact length_after?_le ha
    rw [h, List.length_cons] at hle
    omega
  · rintro (rfl | h)
    · rw [spared, after?, Option.getD_some]
    · obtain ⟨b, hv, hink⟩ := exists_blank_append_spared hb value
      cases b with
      | nil => exact hv.symm
      | cons c b => exact absurd (Text.ink_eq_nil_iff.1 hink c List.mem_cons_self) (h c _ hv)

/-! ## Searching -/

/-- A literal with white space at its end is found where it is found without, and takes more of what follows. -/
theorem find?_append_blank (literal content : Text) : find? (literal ++ blank) content =
    (find? literal content).map fun (gap, rest) => (gap, spared blank rest) := by
  induction content with
  | nil => rfl
  | cons c content ih =>
    rw [find?, find?, after?_literal_append]
    cases ha : after? literal (c :: content) with
    | some rest => rw [Option.bind_some, after?_eq_spared hb]; rfl
    | none =>
      rw [Option.bind_none, ih]
      cases find? literal content <;> rfl

/-- A literal with ink is found at the same place, behind what is left of the gap. -/
theorem find?_spared {literal : Text} (hl : ink literal ≠ []) (content : Text) :
    find? literal (spared blank content) =
      (find? literal content).map fun (gap, rest) => (spared blank gap, rest) := by
  cases hf : find? literal content with
  | none =>
    rw [← Option.not_isSome_iff_eq_none, find?_isSome_iff hl] at hf
    rw [Option.map_none, ← Option.not_isSome_iff_eq_none, find?_isSome_iff hl, ink_spared hb]
    exact hf
  | some found =>
    obtain ⟨gap, rest⟩ := found
    obtain ⟨m, rfl, hm, hr, hfirst⟩ := find?_eq_some_iff.1 hf
    have hpre : ink literal <+: ink m := after?_isSome_iff.1 (by rw [hr]; rfl)
    rw [Option.map_some]
    by_cases hg : gap = []
    · -- the literal stands behind the white space as well, and reaches as far
      subst hg
      show _ = some (spared blank [], rest)
      rw [List.nil_append, spared_nil hb]
      obtain ⟨b, hv, hink⟩ := exists_blank_append_spared hb m
      have hne : spared blank m ≠ [] := by
        refine Text.ne_nil_of_ink ?_
        rw [ink_spared hb]
        exact fun e => hl (List.prefix_nil.1 (e ▸ hpre))
      refine find?_of_after? hne ?_
      rw [← after?_blank_append hl hink, ← hv, hr]
    · have hgap : ink gap ≠ [] := by
        intro e
        have hnone := hfirst gap (List.suffix_refl _) hg
        rw [after?_eq_none_iff, Text.ink_append, e] at hnone
        exact hnone hpre
      obtain ⟨b, hv, -⟩ := exists_blank_append_spared hb gap
      have hsuffix : spared blank gap <:+ gap := ⟨b, hv.symm⟩
      rw [spared_append hb hgap, find?_eq_some_iff]
      exact ⟨m, rfl, hm, hr, fun g hsub hne => hfirst g (hsub.trans hsuffix) hne⟩

end Literal

/-! ## Passes -/

namespace Segment

open Literal (spared)

variable {blank y : Text} (hb : ink blank = []) (hy : ink y ≠ [])
include hb hy

/-- The literal reaches farther into the value behind it, and the next one is found where it was. -/
theorem pass?_append_blank_head (s : Segment) (p : Placeholder) (bs : List Segment) (content : Text) :
    pass? (⟨s.placeholder, s.literal ++ blank⟩ :: ⟨some p, y⟩ :: bs) content =
      (pass? (s :: ⟨some p, y⟩ :: bs) content).map
        (Prod.map (fun values => values.modify (arity [s]) (spared blank)) id) := by
  cases hf : Literal.find? s.literal content with
  | none => simp only [pass?, Literal.find?_append_blank hb, hf, Option.map_none]
  | some found =>
    obtain ⟨gap, rest⟩ := found
    have hf' : Literal.find? (s.literal ++ blank) content = some (gap, spared blank rest) := by
      rw [Literal.find?_append_blank hb, hf, Option.map_some]
    rw [pass?_cons hf, pass?_cons hf']
    cases hg : Literal.find? y rest with
    | none => simp only [pass?, Literal.find?_spared hb hy, hg, Option.map_none]
    | some found =>
      obtain ⟨gap', rest'⟩ := found
      have hg' : Literal.find? y (spared blank rest) = some (spared blank gap', rest') := by
        rw [Literal.find?_spared hb hy, hg, Option.map_some]
      rw [pass?_cons (s := ⟨some p, y⟩) hg, pass?_cons (s := ⟨some p, y⟩) hg']
      cases pass? bs rest' with
      | none => rfl
      | some pass => cases hs : s.placeholder <;> simp [value, hs, arity]

/-- **White space at the end of a literal takes white space from the value behind it,** and changes nothing else in a
pass. -/
theorem pass?_append_blank (as bs : List Segment) (s : Segment) (p : Placeholder) (content : Text) :
    pass? (as ++ ⟨s.placeholder, s.literal ++ blank⟩ :: ⟨some p, y⟩ :: bs) content =
      (pass? (as ++ s :: ⟨some p, y⟩ :: bs) content).map
        (Prod.map (fun values => values.modify (arity (as ++ [s])) (spared blank)) id) := by
  -- the values in front of it move its index on
  induction as generalizing content with
  | nil => exact pass?_append_blank_head hb hy s p bs content
  | cons a as ih =>
    simp only [List.cons_append]
    cases hf : Literal.find? a.literal content with
    | none => simp only [pass?, hf, Option.map_none]
    | some found =>
      obtain ⟨gap, rest⟩ := found
      rw [pass?_cons hf, pass?_cons hf, ih]
      cases pass? (as ++ s :: ⟨some p, y⟩ :: bs) rest with
      | none => rfl
      | some pass => cases ha : a.placeholder <;> simp [value, ha, arity]

end Segment

/-! ## Records -/

/-- **White space at the end of a literal in front of a placeholder takes white space from the captured values.** With
it an accepted template is accepted, its passes are those that there were, and their values are the same but for those
of this placeholder, of which is left what the white space spares. The records are the same exactly if that does not
matter in any of them; they are if none of the values begins with white space. -/
theorem extract_lengthened {source blank : Text} {t t' : Template} {i : Nat} (h : Template.parse source = .ok t)
    (hb : ink blank = []) (ht : t.Lengthened blank i t') (reg : Registry) (content : Text) :
    Template.parse (Token.print t'.tokens) = .ok t' ∧
      extract t reg content = (Segment.passes t.segments content).map (Placeholder.record reg t.placeholders) ∧
      extract t' reg content = (Segment.passes t.segments content).map (fun values =>
        Placeholder.record reg t.placeholders (values.modify i (Literal.spared blank))) ∧
      (extract t' reg content = extract t reg content ↔ ∀ values ∈ Segment.passes t.segments content, ∀ p v,
        t.placeholders[i]? = some p → values[i]? = some v →
          p.Indifferent reg (t.placeholders.drop (i + 1)) (Literal.spared blank v) v) ∧
      ((∀ values ∈ Segment.passes t.segments content, ∀ c v, values[i]? = some (c :: v) → ¬ isBlank c = true) →
        extract t' reg content = extract t reg content) := by
  have h' := Template.parse_of_lengthened h hb ht
  obtain ⟨as, s, p, y, bs, hs, hs', hy, hi⟩ := Template.segments_of_lengthened h hb ht
  have hne : t.segments ≠ [] := by simp [hs]
  have hne' : t'.segments ≠ [] := by simp [hs']
  have hpasses : Segment.passes t'.segments content =
      (Segment.passes t.segments content).map fun values => values.modify i (Literal.spared blank) := by
    refine Segment.passes_map hne hne' (fun content => ?_) content
    rw [hs, hs', Segment.pass?_append_blank hb hy as bs s p content, hi]
  have hrecords := extract_eq_passes h hne reg content
  have hrecords' : extract t' reg content = (Segment.passes t.segments content).map fun values =>
      Placeholder.record reg t.placeholders (values.modify i (Literal.spared blank)) := by
    rw [extract_eq_passes h' hne' reg content, hpasses, List.map_map, Template.placeholders_of_lengthened h hb ht]
    rfl
  have hsame : extract t' reg content = extract t reg content ↔ ∀ values ∈ Segment.passes t.segments content, ∀ p v,
      t.placeholders[i]? = some p → values[i]? = some v →
        p.Indifferent reg (t.placeholders.drop (i + 1)) (Literal.spared blank v) v := by
    rw [hrecords, hrecords', List.map_inj_left]
    refine forall₂_congr fun values hv => ?_
    have hlen : values.length = t.placeholders.length := by
      rw [Segment.length_of_mem_passes hv, Template.placeholders_eq_segments h]
    exact Placeholder.record_modify_eq_iff reg (Literal.spared blank) hlen i
  refine ⟨h', hrecords, hrecords', hsame, fun hv => hsame.2 fun values hvalues p v _ hiv => ?_⟩
  have hspared : Literal.spared blank v = v :=
    (Literal.spared_eq_self_iff hb v).2 (.inr fun c w e => hv values hvalues c w (e ▸ hiv))
  exact .inr (.inr (by rw [hspared]))

/-- The value loses its space, which the filter takes anyway. -/
theorem extract_lengthened_trimmed :
    ∃ t t', Template.parse "<\x7b\x7ba|trim\x7d\x7d>".toList = .ok t ∧
      Template.parse "< \x7b\x7ba|trim\x7d\x7d>".toList = .ok t' ∧
      Segment.passes t.segments "< x>".toList = [[" x".toList]] ∧
      Segment.passes t'.segments "< x>".toList = [["x".toList]] ∧
      extract t' Registry.standard "< x>".toList = extract t Registry.standard "< x>".toList := by
  have hp : Template.parse "<\x7b\x7ba|trim\x7d\x7d>".toList =
      .ok ⟨Layout.tokens ⟨['<'], [(⟨['a'], ["trim".toList]⟩, ['>'])]⟩⟩ := by decide +kernel
  have hlong : Template.Lengthened [' '] 0 ⟨Layout.tokens ⟨['<'], [(⟨['a'], ["trim".toList]⟩, ['>'])]⟩⟩
      ⟨Layout.tokens ⟨"< ".toList, [(⟨['a'], ["trim".toList]⟩, ['>'])]⟩⟩ :=
    @Template.Lengthened.intro [' '] 0 [] _ _ _ rfl
  have hb : ink [' '] = [] := by decide
  obtain ⟨hp', -, -, hsame, -⟩ := extract_lengthened hp hb hlong Registry.standard "< x>".toList
  have hpasses : Segment.passes (Template.segments ⟨Layout.tokens ⟨['<'], [(⟨['a'], ["trim".toList]⟩, ['>'])]⟩⟩)
      "< x>".toList = [[" x".toList]] := by decide +kernel
  refine ⟨_, _, hp, hp', hpasses, by decide +kernel, hsame.2 fun values hv p v hp hv' => ?_⟩
  rw [hpasses, List.mem_singleton] at hv
  subst hv
  cases hp
  cases hv'
  exact .inr (.inr (by decide +kernel))

/-- Without a filter the value is another one. -/
theorem extract_lengthened_ne :
    ∃ t t', Template.parse "<b>\x7b\x7bx\x7d\x7d</b>".toList = .ok t ∧
      Template.parse "<b> \x7b\x7bx\x7d\x7d</b>".toList = .ok t' ∧ t.Lengthened [' '] 0 t' ∧
      (extract t Registry.standard "<b> v</b>".toList).map Record.fields = [[(['x'], [' ', 'v'])]] ∧
      (extract t' Registry.standard "<b> v</b>".toList).map Record.fields = [[(['x'], ['v'])]] ∧
      extract t' Registry.standard "<b> v</b>".toList ≠ extract t Registry.standard "<b> v</b>".toList := by
  have hp : Template.parse "<b>\x7b\x7bx\x7d\x7d</b>".toList =
      .ok ⟨Layout.tokens ⟨"<b>".toList, [(⟨['x'], []⟩, "</b>".toList)]⟩⟩ := by decide +kernel
  have hp' : Template.parse "<b> \x7b\x7bx\x7d\x7d</b>".toList =
      .ok ⟨Layout.tokens ⟨"<b> ".toList, [(⟨['x'], []⟩, "</b>".toList)]⟩⟩ := by decide +kernel
  have hr : (extract ⟨Layout.tokens ⟨"<b>".toList, [(⟨['x'], []⟩, "</b>".toList)]⟩⟩ Registry.standard
      "<b> v</b>".toList).map Record.fields = [[(['x'], [' ', 'v'])]] := by
    rw [extract_eq_passes hp (by decide)]
    decide +kernel
  have hr' : (extract ⟨Layout.tokens ⟨"<b> ".toList, [(⟨['x'], []⟩, "</b>".toList)]⟩⟩ Registry.standard
      "<b> v</b>".toList).map Record.fields = [[(['x'], ['v'])]] := by
    rw [extract_eq_passes hp' (by decide)]
    decide +kernel
  refine ⟨_, _, hp, hp', @Template.Lengthened.intro [' '] 0 [] _ _ _ rfl, hr, hr', fun h => ?_⟩
  rw [h, hr] at hr'
  exact absurd hr' (by decide)

end PageHarvest
