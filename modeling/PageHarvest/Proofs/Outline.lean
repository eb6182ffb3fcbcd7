import PageHarvest.Proofs.Simulation

/-!
# The outline of a template

Where a template matches is told by its outline: its tokens without bars and filters, and without the names of its
placeholders. Templates of one outline find the same raw values in a content. Names and filters only tell what becomes of
the values, each of them where it is set.

- `Template.map_shape_segments`: the shapes of the segments are told by the outline.
- `extract_of_outline_eq`: the records of two templates of one outline.
-/

namespace PageHarvest

open Extraction (discard)

/-! ## Outlines -/

/-- The token without its literal if it is the name of a placeholder. -/
def Token.unnamed (x : Token) : Token := if x.kind = .variableName then { x with literal := [] } else x

namespace Template

/-- Tokens without bars and filters, and without the names of placeholders. -/
def outlineOf (ts : List Token) : List Token :=
  (ts.filter fun x => x.kind ≠ .pipe ∧ x.kind ≠ .filterName).map Token.unnamed

/-- The tokens of a template without bars and filters, and without the names of its placeholders. -/
def outline (t : Template) : List Token := outlineOf t.tokens

/-- The outline of tokens has segments of the same shapes. -/
theorem map_shape_segmentsFrom (ts : List Token) (o o' : Option Placeholder) (ho : o.isSome = o'.isSome) :
    (segmentsFrom o ts).map Segment.shape = (segmentsFrom o' (outlineOf ts)).map Segment.shape := by
  induction ts generalizing o o' with
  | nil => rfl
  | cons x ts ih =>
    cases hk : x.kind with
    | text =>
      have ht : outlineOf (x :: ts) = x :: outlineOf ts := by simp [outlineOf, Token.unnamed, hk]
      simp only [ht, segmentsFrom, hk, List.map_cons, Segment.shape, ho, ih none none rfl]
    | variableName =>
      have ht : outlineOf (x :: ts) = { x with literal := [] } :: outlineOf ts := by
        simp [outlineOf, Token.unnamed, hk]
      simp only [ht, segmentsFrom, hk]
      exact ih _ _ rfl
    | pipe | filterName =>
      have ht : outlineOf (x :: ts) = outlineOf ts := by simp [outlineOf, hk]
      simp only [ht, segmentsFrom, hk]
      exact ih o o' ho
    | leftDelimiter | rightDelimiter | endOfTemplate | error =>
      have ht : outlineOf (x :: ts) = x :: outlineOf ts := by simp [outlineOf, Token.unnamed, hk]
      simp only [ht, segmentsFrom, hk]
      exact ih o o' ho

/-- Templates of one outline have segments of the same shapes. -/
theorem map_shape_segments {t₁ t₂ : Template} (h : t₁.outline = t₂.outline) :
    t₁.segments.map Segment.shape = t₂.segments.map Segment.shape := by
  have h₁ := map_shape_segmentsFrom t₁.tokens none none rfl
  have h₂ := map_shape_segmentsFrom t₂.tokens none none rfl
  have ho : outlineOf t₁.tokens = outlineOf t₂.tokens := h
  rw [segments, segments, h₁, h₂, ho]

end Template

/-! ## One field -/

namespace Placeholder

/-- Two placeholders make the same of a field: if one of them sets it, so does the other, and to the same value. -/
def AgreeOn (reg₁ reg₂ : Registry) (name : Text) (p q : Placeholder) : Prop :=
  p.name = name ∨ q.name = name → p.name = q.name ∧ ∀ v, reg₁.filtered v p.filters = reg₂.filtered v q.filters

/-- Placeholders that agree on a field give it the same last value. -/
theorem lookup_reverse_fields_of_agreeOn {reg₁ reg₂ : Registry} {name : Text} {ps qs : List Placeholder}
    (h : List.Forall₂ (AgreeOn reg₁ reg₂ name) ps qs) (values : List Text) :
    (fields reg₁ ps values).reverse.lookup name = (fields reg₂ qs values).reverse.lookup name := by
  induction h generalizing values with
  | nil => rfl
  | @cons p q ps qs hpq _ ih =>
    cases values with
    | nil => rfl
    | cons v values =>
      have hlast (reg : Registry) (p : Placeholder) (ps : List Placeholder) :
          (fields reg (p :: ps) (v :: values)).reverse.lookup name = ((fields reg ps values).reverse.lookup name).or
            (if p.name = name ∧ name ≠ discard then some (reg.filtered v p.filters) else none) := by
        rw [fields_cons]
        by_cases hd : p.name = discard
        · have hn : ¬ (p.name = name ∧ name ≠ discard) := fun h => h.2 (h.1.symm.trans hd)
          rw [if_pos hd, if_neg hn, Option.or_none]
        · rw [if_neg hd, List.reverse_cons, List.lookup_append, Fields.lookup_cons]
          by_cases hn : p.name = name
          · subst hn
            rw [if_pos rfl, if_pos ⟨rfl, hd⟩]
          · rw [if_neg fun e => hn e.symm, if_neg fun h => hn h.1]
            rfl
      rw [hlast, hlast, ih]
      by_cases hn : p.name = name ∨ q.name = name
      · obtain ⟨he, hv⟩ := hpq hn
        rw [he, hv]
      · obtain ⟨hp, hq⟩ := not_or.1 hn
        rw [if_neg fun h => hp h.1, if_neg fun h => hq h.1]

theorem lookup_record_of_agreeOn {reg₁ reg₂ : Registry} {name : Text} {ps qs : List Placeholder}
    (h : List.Forall₂ (AgreeOn reg₁ reg₂ name) ps qs) (values : List Text) :
    (record reg₁ ps values).fields.lookup name = (record reg₂ qs values).fields.lookup name := by
  rw [record, record, Fields.lookup_settled, Fields.lookup_settled]
  exact lookup_reverse_fields_of_agreeOn h values

end Placeholder

/-! ## Records -/

/-- **Where a template matches depends on its literals only.** Two accepted templates of one outline find the same raw
values in a content, one for each placeholder, and each of them makes its records from these values with its own names,
its own filters and its own registry. So there are as many records of the one as of the other, and a field that their
placeholders agree on has the same values in both. -/
theorem extract_of_outline_eq {source₁ source₂ : Text} {t₁ t₂ : Template} (h₁ : Template.parse source₁ = .ok t₁)
    (h₂ : Template.parse source₂ = .ok t₂) (h : t₁.outline = t₂.outline) (reg₁ reg₂ : Registry) (content : Text) :
    (∃ rows : List (List Text),
      (∀ row ∈ rows, row.length = t₁.placeholders.length ∧ row.length = t₂.placeholders.length) ∧
      extract t₁ reg₁ content = rows.map (Placeholder.record reg₁ t₁.placeholders) ∧
      extract t₂ reg₂ content = rows.map (Placeholder.record reg₂ t₂.placeholders)) ∧
    (extract t₁ reg₁ content).length = (extract t₂ reg₂ content).length ∧
    ∀ name, List.Forall₂ (Placeholder.AgreeOn reg₁ reg₂ name) t₁.placeholders t₂.placeholders →
      (extract t₁ reg₁ content).map (fun r => r.fields.lookup name) =
        (extract t₂ reg₂ content).map fun r => r.fields.lookup name := by
  obtain ⟨rows, hlen, hr₁, hr₂⟩ :=
    extract_of_shapes_eq h₁ h₂ (Template.map_shape_segments h) reg₁ reg₂ content
  refine ⟨⟨rows, hlen, hr₁, hr₂⟩, by simp [hr₁, hr₂], fun name hagree => ?_⟩
  rw [hr₁, hr₂, List.map_map, List.map_map]
  exact List.map_congr_left fun row _ => Placeholder.lookup_record_of_agreeOn hagree row

/-- The first value takes the discard name and loses its filter, the second one keeps its filter and is given another one
that is unknown, and the third one, which takes the first name again, gets a name of its own. -/
theorem extract_of_outline_eq_renamed :
    ∃ t₁ t₂, Template.parse "<\x7b\x7ba|trim\x7d\x7d>\x7b\x7bb|trim\x7d\x7d;\x7b\x7ba\x7d\x7d.".toList = .ok t₁ ∧
      Template.parse "<\x7b\x7b_\x7d\x7d>\x7b\x7bb|no|trim\x7d\x7d;\x7b\x7bc|uppercase\x7d\x7d.".toList = .ok t₂ ∧
      t₁.outline = t₂.outline ∧
      List.Forall₂ (Placeholder.AgreeOn Registry.standard Registry.standard ['b']) t₁.placeholders t₂.placeholders ∧
      (extract t₁ Registry.standard "< 1> x;y.".toList).map Record.fields = [[(['a'], ['y']), (['b'], ['x'])]] ∧
      (extract t₂ Registry.standard "< 1> x;y.".toList).map Record.fields = [[(['b'], ['x']), (['c'], ['Y'])]] ∧
      (extract t₁ Registry.standard "< 1> x;y.".toList).map (fun r => r.fields.lookup ['b']) =
        (extract t₂ Registry.standard "< 1> x;y.".toList).map fun r => r.fields.lookup ['b'] := by
  have hp₁ : Template.parse "<\x7b\x7ba|trim\x7d\x7d>\x7b\x7bb|trim\x7d\x7d;\x7b\x7ba\x7d\x7d.".toList =
      .ok ⟨Layout.tokens ⟨['<'], [(⟨['a'], ["trim".toList]⟩, ['>']), (⟨['b'], ["trim".toList]⟩, [';']),
        (⟨['a'], []⟩, ['.'])]⟩⟩ := by decide +kernel
  have hp₂ : Template.parse "<\x7b\x7b_\x7d\x7d>\x7b\x7bb|no|trim\x7d\x7d;\x7b\x7bc|uppercase\x7d\x7d.".toList =
      .ok ⟨Layout.tokens ⟨['<'], [(⟨['_'], []⟩, ['>']), (⟨['b'], ["no".toList, "trim".toList]⟩, [';']),
        (⟨['c'], ["uppercase".toList]⟩, ['.'])]⟩⟩ := by decide +kernel
  have hother {p q : Placeholder} (h : p.name ≠ ['b'] ∧ q.name ≠ ['b']) :
      Placeholder.AgreeOn Registry.standard Registry.standard ['b'] p q := fun hb => (hb.elim h.1 h.2).elim
  have hb : Placeholder.AgreeOn Registry.standard Registry.standard ['b'] ⟨['b'], ["trim".toList]⟩
      ⟨['b'], ["no".toList, "trim".toList]⟩ := fun _ => ⟨rfl, fun _ => rfl⟩
  have hagree := List.Forall₂.cons (hother (p := ⟨['a'], ["trim".toList]⟩) (q := ⟨['_'], []⟩) (by decide))
    (.cons hb (.cons (hother (p := ⟨['a'], []⟩) (q := ⟨['c'], ["uppercase".toList]⟩) (by decide)) .nil))
  obtain ⟨-, -, hsame⟩ :=
    extract_of_outline_eq hp₁ hp₂ (by decide) Registry.standard Registry.standard "< 1> x;y.".toList
  refine ⟨_, _, hp₁, hp₂, by decide, hagree, ?_, ?_, hsame ['b'] hagree⟩
  · rw [extract_eq_passes hp₁ (by decide)]
    decide +kernel
  · rw [extract_eq_passes hp₂ (by decide)]
    decide +kernel

end PageHarvest
