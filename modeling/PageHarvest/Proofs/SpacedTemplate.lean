import PageHarvest.Proofs.Simulation
import PageHarvest.Proofs.Spacing

/-!
# White space in a template

`Template.Spread t t'` puts white space in front of ink of the literal texts of a template. What comes out is a template
again, since neither the beginning of a delimiter nor the last character of a text is made up of what is put in
(`Legible.spread`, `Layout.exists_of_spread`), and its segments have the shapes that they had.

- `Template.parse_of_spread`: a template that is spread is accepted.
- `Template.map_shape_of_spread`: its segments have the same shapes.
-/

namespace PageHarvest

open Text (isBlank ink)

/-! ## Texts -/

namespace Text.Spread

variable {P : Text → Prop} {x x' : Text} {c : Char}

theorem eq_nil_iff (h : Spread P x x') : x' = [] ↔ x = [] := by
  cases h <;> simp

/-- What is put in front of ink is not the last character. -/
theorem getLast?_eq (h : Spread P x x') : x'.getLast? = x.getLast? := by
  induction h with
  | nil => rfl
  | cons _ ih => rw [List.getLast?_cons, List.getLast?_cons, ih]
  | insert _ _ _ _ ih => rw [List.getLast?_append, List.getLast?_cons, List.getLast?_cons, ih, Option.some_or]

/-- A text that begins with ink has begun with it. -/
theorem head?_of_not_blank (h : Spread P x x') (hc : ¬ isBlank c = true) (hx : x'.head? = some c) :
    x.head? = some c := by
  cases h with
  | nil => exact hx
  | cons => exact hx
  | @insert b _ _ _ hb _ _ _ =>
    cases b with
    | nil => exact hx
    | cons d b =>
      obtain rfl := Option.some.inj hx
      exact absurd (ink_eq_nil_iff.1 hb d List.mem_cons_self) hc

/-- White space does not begin a pair of characters that are ink. -/
theorem pair_infix_append {b m : Text} (hc : ¬ isBlank c = true) (hb : ink b = []) :
    [c, c] <:+: b ++ m ↔ [c, c] <:+: m := by
  induction b with
  | nil => rfl
  | cons d b ih =>
    have hd : isBlank d = true := ink_eq_nil_iff.1 hb d List.mem_cons_self
    rw [ink_cons_of_blank hd] at hb
    rw [List.cons_append, List.infix_cons_iff, ih hb, or_iff_right]
    rw [pair_prefix_iff]
    rintro ⟨rfl, -⟩
    exact hc hd

/-- No pair of characters that are ink is made up. -/
theorem pair_infix (h : Spread P x x') (hc : ¬ isBlank c = true) (hx : [c, c] <:+: x') : [c, c] <:+: x := by
  have hcons {d : Char} {y y' : Text} (hy : Spread P y y') (ih : [c, c] <:+: y' → [c, c] <:+: y)
      (hi : [c, c] <:+: d :: y') : [c, c] <:+: d :: y := by
    rw [List.infix_cons_iff, pair_prefix_iff] at hi ⊢
    exact hi.imp (fun hi => ⟨hi.1, hy.head?_of_not_blank hc hi.2⟩) ih
  induction h with
  | nil => exact hx
  | cons hy ih => exact hcons hy ih hx
  | insert hb _ _ hy ih => exact hcons hy ih ((pair_infix_append hc hb).1 hx)

end Text.Spread

/-! ## Tokens -/

namespace Token

/-- White space is put in front of ink of a literal text. Other tokens stay as they are. -/
inductive Spread : Token → Token → Prop
  | text {l l' : Text} : Text.Spread Text.Anywhere l l' → Spread ⟨.text, l⟩ ⟨.text, l'⟩
  | other {x : Token} : x.kind ≠ .text → Spread x x

variable {x x' y y' : Token}

theorem Spread.kind_eq (h : Spread x x') : x'.kind = x.kind := by
  cases h <;> rfl

theorem Spread.getLast?_eq (h : Spread x x') : x'.literal.getLast? = x.literal.getLast? := by
  cases h with
  | text h => exact h.getLast?_eq
  | other => rfl

theorem Spread.apart (hx : Spread x x') (hy : Spread y y') (h : x.Apart y) : x'.Apart y' := by
  rw [Apart, Named, hx.kind_eq, hy.kind_eq, hx.getLast?_eq]
  exact h

theorem Spread.text_of (h : Spread x x') (ht : x.kind = .text → x.literal ≠ [] ∧ ¬ opening <:+: x.literal) :
    x'.kind = .text → x'.literal ≠ [] ∧ ¬ opening <:+: x'.literal := by
  intro hk
  cases h with
  | text h => exact (ht rfl).imp (mt h.eq_nil_iff.1) (mt (h.pair_infix (by decide)))
  | other => exact ht hk

theorem Spread.name_of (h : Spread x x') (hn : x.Named → IsName x.literal) : x'.Named → IsName x'.literal := by
  intro hk
  cases h with
  | text => rcases hk with hk | hk <;> cases hk
  | other => exact hn hk

end Token

/-- Tokens stay legible. -/
theorem Legible.spread {ts ts' : List Token} (hs : List.Forall₂ Token.Spread ts ts') (h : Legible ts) :
    Legible ts' := by
  induction hs with
  | nil => exact h
  | @cons x x' ts ts' hx hs ih =>
    have htext := hx.text_of (h.text x List.mem_cons_self)
    have hname := hx.name_of (h.name x List.mem_cons_self)
    have htail := ih h.tail
    cases hs with
    | nil => exact ⟨by simpa using htext, by simpa using hname, .singleton _⟩
    | cons hy => exact htail.cons htext hname (hx.apart hy (List.isChain_cons_cons.1 h.apart).1)

/-! ## Layouts -/

/-- White space is put in front of ink of the literal texts of a layout. -/
structure Layout.Spread (l l' : Layout) : Prop where
  lead : Text.Spread Text.Anywhere l.lead l'.lead
  parts : List.Forall₂ (fun p p' => p'.1 = p.1 ∧ Text.Spread Text.Anywhere p.2 p'.2) l.parts l'.parts

namespace Token

variable {us ts' : List Token}

theorem exists_ofText_of_spread {x : Text} (h : List.Forall₂ Spread (ofText x ++ us) ts') :
    ∃ x' us', ts' = ofText x' ++ us' ∧ Text.Spread Text.Anywhere x x' ∧ List.Forall₂ Spread us us' := by
  by_cases hx : x = []
  · subst hx
    exact ⟨[], ts', rfl, .nil, h⟩
  · rw [ofText_of_ne hx] at h
    cases h with
    | cons hy hus =>
      cases hy with
      | text hx' => exact ⟨_, _, by rw [ofText_of_ne (mt hx'.eq_nil_iff.1 hx)]; rfl, hx', hus⟩
      | other hk => exact absurd rfl hk

theorem exists_cons_of_spread {x : Token} (hx : x.kind ≠ .text) (h : List.Forall₂ Spread (x :: us) ts') :
    ∃ us', ts' = x :: us' ∧ List.Forall₂ Spread us us' := by
  cases h with
  | cons hy hus =>
    cases hy with
    | text => exact absurd rfl hx
    | other => exact ⟨_, rfl, hus⟩

theorem exists_ofFilters_of_spread {fs : List Text} (h : List.Forall₂ Spread (ofFilters fs ++ us) ts') :
    ∃ us', ts' = ofFilters fs ++ us' ∧ List.Forall₂ Spread us us' := by
  induction fs generalizing ts' with
  | nil => exact ⟨ts', rfl, h⟩
  | cons f fs ih =>
    obtain ⟨_, rfl, hname⟩ := exists_cons_of_spread (by simp) h
    obtain ⟨_, rfl, hfilters⟩ := exists_cons_of_spread (by simp) hname
    obtain ⟨us', rfl, hus⟩ := ih hfilters
    exact ⟨us', rfl, hus⟩

theorem exists_ofParts_of_spread {ps : List (Placeholder × Text)} (h : List.Forall₂ Spread (ofParts ps) ts') :
    ∃ ps', ts' = ofParts ps' ∧
      List.Forall₂ (fun p p' => p'.1 = p.1 ∧ Text.Spread Text.Anywhere p.2 p'.2) ps ps' := by
  induction ps generalizing ts' with
  | nil =>
    obtain ⟨us', rfl, hus⟩ := exists_cons_of_spread (by simp [final]) h
    exact ⟨[], by rw [List.forall₂_nil_left_iff.1 hus]; rfl, .nil⟩
  | cons p ps ih =>
    obtain ⟨_, rfl, hname⟩ := exists_cons_of_spread (by simp) h
    obtain ⟨_, rfl, hfilters⟩ := exists_cons_of_spread (by simp) hname
    obtain ⟨_, rfl, hclosing⟩ := exists_ofFilters_of_spread hfilters
    obtain ⟨_, rfl, htext⟩ := exists_cons_of_spread (by simp) hclosing
    obtain ⟨x', _, rfl, hx, hparts⟩ := exists_ofText_of_spread htext
    obtain ⟨ps', rfl, hps⟩ := ih hparts
    exact ⟨(p.1, x') :: ps', rfl, .cons ⟨rfl, hx⟩ hps⟩

end Token

/-- The tokens of a layout become the tokens of a layout. -/
theorem Layout.exists_of_spread {l : Layout} {ts' : List Token} (h : List.Forall₂ Token.Spread l.tokens ts') :
    ∃ l' : Layout, ts' = l'.tokens ∧ l.Spread l' := by
  obtain ⟨x', us', rfl, hx, hparts⟩ := Token.exists_ofText_of_spread h
  obtain ⟨ps', rfl, hps⟩ := Token.exists_ofParts_of_spread hparts
  exact ⟨⟨x', ps'⟩, rfl, hx, hps⟩

/-- What does not heed white space in front of ink stays the same for all parts of a layout. -/
theorem Layout.Spread.map_parts {α : Type} {l l' : Layout} (h : l.Spread l') {f : Placeholder × Text → α}
    (hf : ∀ p x x', Text.Spread Text.Anywhere x x' → f (p, x') = f (p, x)) : l'.parts.map f = l.parts.map f := by
  have hparts : List.Forall₂ (· = ·) (l.parts.map f) (l'.parts.map f) := by
    rw [List.forall₂_map_left_iff, List.forall₂_map_right_iff]
    exact h.parts.imp fun p p' ⟨hp, hx⟩ => by
      rw [← Prod.eta p', hp]
      exact (hf p.1 p.2 p'.2 hx).symm
  rw [List.forall₂_eq_eq_eq] at hparts
  exact hparts.symm

theorem Layout.Spread.ink_ne_nil {l l' : Layout} (h : l.Spread l') (hl : ∀ p ∈ l.parts, ink p.2 ≠ []) :
    ∀ p ∈ l'.parts, ink p.2 ≠ [] := by
  have hink := h.map_parts (f := fun p => ink p.2) fun _ _ _ hx => hx.respaced.ink_eq
  have hmap : ∀ x ∈ l.parts.map fun p => ink p.2, x ≠ [] := List.forall_mem_map.2 hl
  rw [← hink] at hmap
  exact fun p hp => hmap _ (List.mem_map_of_mem hp)

/-! ## Templates -/

namespace Template

/-- White space is put in front of ink of the literal texts of a template. -/
def Spread (t t' : Template) : Prop := List.Forall₂ Token.Spread t.tokens t'.tokens

/-- A template with legible tokens is accepted if they have a layout in which every placeholder is closed by a text with
ink. -/
theorem parse_print {t : Template} {l : Layout} (ht : t.tokens = l.tokens) (h : Legible t.tokens)
    (hl : ∀ p ∈ l.parts, ink p.2 ≠ []) : parse (Token.print t.tokens) = .ok t := by
  have hts : tokenize (Token.print t.tokens) = .ok t.tokens := tokenize_eq_ok_iff.2 ⟨rfl, h, l, ht⟩
  have hc : checkPlaceholders t.tokens = .ok () := by
    rw [checkPlaceholders, ht, Layout.tokens, checkFrom_ofText, ite_self]
    exact checkFrom_ofParts_iff.2 ⟨rfl, hl⟩
  simp only [parse, hts, hc]

theorem legible_of_parse {source : Text} {t : Template} (h : parse source = .ok t) : Legible t.tokens :=
  (tokenize_eq_ok_iff.1 (tokenize_of_parse h).1).2.toLegible

/-- The layouts of an accepted template and of the same template with white space put in. -/
theorem exists_layouts_of_spread {source : Text} {t t' : Template} (h : parse source = .ok t) (hs : t.Spread t') :
    ∃ l l' : Layout, t.tokens = l.tokens ∧ t'.tokens = l'.tokens ∧ l.Spread l' ∧
      (∀ p ∈ l.parts, ink p.2 ≠ []) ∧ ∀ p ∈ l'.parts, ink p.2 ≠ [] := by
  obtain ⟨l, ht, hl⟩ := exists_layout_of_parse h
  rw [Spread, ht] at hs
  obtain ⟨l', ht', hll⟩ := Layout.exists_of_spread hs
  exact ⟨l, l', ht, ht', hll, hl, hll.ink_ne_nil hl⟩

/-- **With white space put in, an accepted template is accepted.** -/
theorem parse_of_spread {source : Text} {t t' : Template} (h : parse source = .ok t) (hs : t.Spread t') :
    parse (Token.print t'.tokens) = .ok t' := by
  obtain ⟨l, l', -, ht', -, -, hl'⟩ := exists_layouts_of_spread h hs
  exact parse_print ht' ((legible_of_parse h).spread hs) hl'

theorem placeholders_of_spread {source : Text} {t t' : Template} (h : parse source = .ok t) (hs : t.Spread t') :
    t'.placeholders = t.placeholders := by
  obtain ⟨l, l', ht, ht', hll, -, -⟩ := exists_layouts_of_spread h hs
  rw [placeholders_of_layout ht, placeholders_of_layout ht']
  exact hll.map_parts fun _ _ _ _ => rfl

/-- The segments of a template keep their shapes. -/
theorem map_shape_of_spread {source : Text} {t t' : Template} (h : parse source = .ok t) (hs : t.Spread t') :
    t'.segments.map Segment.shape = t.segments.map Segment.shape := by
  have hshape (o : Option Placeholder) {x x' : Text} (hx : Text.Spread Text.Anywhere x x') :
      Segment.shape ⟨o, x'⟩ = Segment.shape ⟨o, x⟩ := by
    rw [Segment.shape, Segment.shape, funext (Literal.after?_spread hx)]
  obtain ⟨l, l', ht, ht', hll, hl, hl'⟩ := exists_layouts_of_spread h hs
  rw [segments_of_layout ht hl, segments_of_layout ht' hl', List.map_append, List.map_append, List.map_map,
    List.map_map, hll.map_parts fun p x x' hx => hshape (some p) hx]
  congr 1
  simp only [hll.lead.eq_nil_iff]
  split
  · rfl
  · rw [List.map_singleton, List.map_singleton, hshape none hll.lead]

end Template

end PageHarvest
