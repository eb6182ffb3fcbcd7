import PageHarvest.Proofs.SpacedTemplate

/-!
# White space at the end of a literal of a template

`Template.Lengthened` puts white space at the end of a literal text that stands directly in front of a placeholder.
What comes out is a template again (`Template.parse_of_lengthened`): no delimiter is made up (`Legible.lengthened`),
and the text stands between the same placeholders as before (`Layout.exists_of_lengthened`). So its segments are those
that there were, with one literal lengthened (`Template.segments_of_lengthened`).
-/

namespace PageHarvest

open Text (isBlank ink)

/-- The number of placeholders in segments. -/
def Segment.arity (ss : List Segment) : Nat := (ss.filterMap Segment.placeholder).length

/-! ## Layouts -/

/-- White space is put at the end of the literal text in front of a placeholder, which is the one with the given
index. -/
inductive Layout.Lengthened (blank : Text) : Nat → Layout → Layout → Prop
  | lead {x : Text} {q : Placeholder × Text} {qs : List (Placeholder × Text)} : x ≠ [] →
      Lengthened blank 0 ⟨x, q :: qs⟩ ⟨x ++ blank, q :: qs⟩
  | part {l x : Text} {p : Placeholder} {q : Placeholder × Text} {ps qs : List (Placeholder × Text)} :
      Lengthened blank (ps.length + 1) ⟨l, ps ++ (p, x) :: q :: qs⟩ ⟨l, ps ++ (p, x ++ blank) :: q :: qs⟩

theorem Template.literals_append (k : Token.Kind) (ts us : List Token) :
    literals k (ts ++ us) = literals k ts ++ literals k us := by
  simp [literals]

namespace Token

/-- The tokens of a placeholder. -/
def ofPlaceholder (p : Placeholder) : List Token :=
  ⟨.leftDelimiter, opening⟩ :: ⟨.variableName, p.name⟩ :: (ofFilters p.filters ++ [⟨.rightDelimiter, closing⟩])

theorem ofParts_cons (p : Placeholder) (y : Text) (ps : List (Placeholder × Text)) :
    ofParts ((p, y) :: ps) = ofPlaceholder p ++ (ofText y ++ ofParts ps) := by
  simp [ofParts, ofPlaceholder]

theorem kind_of_mem_ofFilters {fs : List Text} {t : Token} (h : t ∈ ofFilters fs) :
    t.kind = .pipe ∨ t.kind = .filterName := by
  obtain ⟨f, -, ht⟩ := List.mem_flatMap.1 h
  simp only [List.mem_cons, List.not_mem_nil, or_false] at ht
  rcases ht with rfl | rfl
  · exact .inl rfl
  · exact .inr rfl

/-- There is no text among the tokens of a placeholder. -/
theorem kind_ne_text {p : Placeholder} {t : Token} (h : t ∈ ofPlaceholder p) : t.kind ≠ .text := by
  simp only [ofPlaceholder, List.mem_cons, List.mem_append, List.not_mem_nil, or_false] at h
  rcases h with rfl | rfl | h | rfl
  · simp
  · simp
  · rcases kind_of_mem_ofFilters h with hk | hk <;> simp [hk]
  · simp

/-- There is one name among the tokens of a placeholder. -/
theorem literals_ofPlaceholder (p : Placeholder) : Template.literals .variableName (ofPlaceholder p) = [p.name] := by
  have hf : (ofFilters p.filters).filter (fun t => t.kind = .variableName) = [] := by
    rw [List.filter_eq_nil_iff]
    intro t ht
    rcases kind_of_mem_ofFilters ht with hk | hk <;> simp [hk]
  simp [Template.literals, ofPlaceholder, hf]

/-- A token that does not stand in the first of two lists stands in the second. -/
theorem exists_of_append_eq {ts us before behind : List Token} {x : Token} (hx : x ∉ ts)
    (h : ts ++ us = before ++ x :: behind) : ∃ between, before = ts ++ between ∧ us = between ++ x :: behind := by
  rcases List.append_eq_append_iff.1 h with h | ⟨e, rfl, he⟩
  · exact h
  · cases e with
    | nil => exact ⟨[], by simp, by simpa using he.symm⟩
    | cons y e =>
      obtain ⟨rfl, -⟩ := List.cons.inj he
      exact absurd (List.mem_append_right before List.mem_cons_self) hx

/-- Where a placeholder begins there is one. -/
theorem exists_of_ofParts_eq_cons {ps : List (Placeholder × Text)} {d : Text} {behind : List Token}
    (h : ofParts ps = ⟨.leftDelimiter, d⟩ :: behind) : ∃ q qs, ps = q :: qs := by
  cases ps with
  | nil => simp [ofParts, final] at h
  | cons q qs => exact ⟨q, qs, rfl⟩

/-- A text that stands directly in front of a placeholder, among placeholders and the texts behind them. -/
theorem exists_of_ofParts_eq {ps : List (Placeholder × Text)} {before behind : List Token} {x d : Text}
    (hps : ∀ p ∈ ps, p.2 ≠ []) (h : ofParts ps = before ++ ⟨.text, x⟩ :: ⟨.leftDelimiter, d⟩ :: behind) :
    ∃ front p q back, ps = front ++ (p, x) :: q :: back ∧
      (Template.literals .variableName before).length = front.length + 1 ∧
      ∀ x', x' ≠ [] →
        ofParts (front ++ (p, x') :: q :: back) = before ++ ⟨.text, x'⟩ :: ⟨.leftDelimiter, d⟩ :: behind := by
  induction ps generalizing before with
  | nil =>
    have hlen := congrArg List.length h
    simp only [ofParts, List.length_append, List.length_cons, List.length_nil] at hlen
    omega
  | cons p ps ih =>
    obtain ⟨p, y⟩ := p
    obtain ⟨hy, hps⟩ := List.forall_mem_cons.1 hps
    rw [ofParts_cons, ofText_of_ne hy, List.singleton_append] at h
    -- the text cannot stand inside the placeholder
    have hnot : ⟨.text, x⟩ ∉ ofPlaceholder p := fun hmem => kind_ne_text hmem rfl
    obtain ⟨e, rfl, he⟩ := exists_of_append_eq hnot h
    cases e with
    | nil =>
      obtain ⟨ht, hparts⟩ := List.cons.inj he
      obtain ⟨-, rfl⟩ := Token.mk.inj ht
      obtain ⟨q, qs, rfl⟩ := exists_of_ofParts_eq_cons hparts
      refine ⟨[], p, q, qs, rfl, by simp [literals_ofPlaceholder], fun x' hx' => ?_⟩
      rw [List.nil_append, ofParts_cons, ofText_of_ne hx', hparts]
      simp
    | cons t e =>
      obtain ⟨rfl, hparts⟩ := List.cons.inj he
      obtain ⟨front, p', q, back, rfl, hlen, hall⟩ := ih hps hparts
      refine ⟨(p, y) :: front, p', q, back, rfl, ?_, fun x' hx' => ?_⟩
      · have hskip : Template.literals .variableName (⟨.text, y⟩ :: e) = Template.literals .variableName e := rfl
        rw [Template.literals_append, hskip, List.length_append, literals_ofPlaceholder, hlen, List.length_cons]
        simp [Nat.add_comm]
      · rw [List.cons_append, ofParts_cons, ofText_of_ne hy, hall x' hx']
        simp

end Token

/-- The layouts of tokens whose texts differ by white space at the end of a literal in front of a placeholder. -/
theorem Layout.exists_of_lengthened {l : Layout} {before behind : List Token} {x d : Text}
    (hl : ∀ p ∈ l.parts, p.2 ≠ []) (h : l.tokens = before ++ ⟨.text, x⟩ :: ⟨.leftDelimiter, d⟩ :: behind)
    (blank : Text) : ∃ l', before ++ ⟨.text, x ++ blank⟩ :: ⟨.leftDelimiter, d⟩ :: behind = l'.tokens ∧
      Layout.Lengthened blank (Template.literals .variableName before).length l l' := by
  obtain ⟨lead, parts⟩ := l
  have hpart {before : List Token}
      (hparts : Token.ofParts parts = before ++ ⟨.text, x⟩ :: ⟨.leftDelimiter, d⟩ :: behind) : ∃ parts',
      before ++ ⟨.text, x ++ blank⟩ :: ⟨.leftDelimiter, d⟩ :: behind = Token.ofParts parts' ∧
        Layout.Lengthened blank (Template.literals .variableName before).length ⟨lead, parts⟩ ⟨lead, parts'⟩ := by
    obtain ⟨front, p, q, back, rfl, hlen, hall⟩ := Token.exists_of_ofParts_eq hl hparts
    have hx : x ≠ [] := hl (p, x) (by simp)
    refine ⟨_, (hall (x ++ blank) (by simp [hx])).symm, ?_⟩
    rw [hlen]
    exact .part
  by_cases hlead : lead = []
  · subst hlead
    obtain ⟨parts', hparts', hlong⟩ := hpart h
    exact ⟨⟨[], parts'⟩, hparts', hlong⟩
  · rw [Layout.tokens, Token.ofText_of_ne hlead, List.singleton_append] at h
    cases before with
    | nil =>
      obtain ⟨ht, hparts⟩ := List.cons.inj h
      obtain ⟨-, rfl⟩ := Token.mk.inj ht
      obtain ⟨q, qs, rfl⟩ := Token.exists_of_ofParts_eq_cons hparts
      refine ⟨⟨lead ++ blank, q :: qs⟩, ?_, .lead hlead⟩
      rw [Layout.tokens, Token.ofText_of_ne (by simp [hlead]), hparts]
      rfl
    | cons t before =>
      obtain ⟨rfl, hparts⟩ := List.cons.inj h
      obtain ⟨parts', hparts', hlong⟩ := hpart hparts
      refine ⟨⟨lead, parts'⟩, ?_, hlong⟩
      rw [Layout.tokens, Token.ofText_of_ne hlead, List.singleton_append, ← hparts']
      rfl

namespace Layout.Lengthened

variable {blank : Text} {i : Nat} {l l' : Layout}

/-- The literal texts behind the placeholders keep their ink. -/
theorem ink_ne_nil (h : l.Lengthened blank i l') (hb : ink blank = []) (hl : ∀ p ∈ l.parts, ink p.2 ≠ []) :
    ∀ p ∈ l'.parts, ink p.2 ≠ [] := by
  cases h with
  | lead => exact hl
  | @part _ x p q ps qs =>
    intro r hr
    rcases List.mem_append.1 hr with hr | hr
    · exact hl r (List.mem_append_left _ hr)
    · rcases List.mem_cons.1 hr with rfl | hr
      · have hx : ink x ≠ [] := hl (p, x) (by simp)
        rwa [Text.ink_append, hb, List.append_nil]
      · exact hl r (by simp [hr])

/-- The placeholders stay as they are. -/
theorem map_fst_parts (h : l.Lengthened blank i l') : l'.parts.map Prod.fst = l.parts.map Prod.fst := by
  cases h <;> simp

end Layout.Lengthened

/-! ## Templates -/

/-- White space at the end of a text does not make up a delimiter. -/
theorem Legible.lengthened {before behind : List Token} {x blank : Text} (hb : ink blank = [])
    (h : Legible (before ++ ⟨.text, x⟩ :: behind)) : Legible (before ++ ⟨.text, x ++ blank⟩ :: behind) := by
  have hrev : ink blank.reverse = [] := by
    rw [Text.ink_eq_nil_iff] at hb ⊢
    simpa using hb
  have hclear (hx : ¬ Token.opening <:+: x) : ¬ Token.opening <:+: x ++ blank := by
    rw [← List.reverse_infix] at hx ⊢
    rw [List.reverse_append]
    exact mt (Text.Spread.pair_infix_append (c := '\x7b') (by decide) hrev).1 hx
  have hlast (hx : x.getLast? ≠ some '\x7b') : (x ++ blank).getLast? ≠ some '\x7b' := by
    rw [List.getLast?_append]
    cases hbl : blank.getLast? with
    | none => simpa using hx
    | some c =>
      have hc : isBlank c = true := Text.ink_eq_nil_iff.1 hb c (List.mem_of_getLast? hbl)
      rw [Option.some_or]
      rintro e
      cases Option.some.inj e
      exact absurd hc (by decide)
  have hmem {t : Token} (ht : t ∈ before ++ ⟨.text, x ++ blank⟩ :: behind) :
      t = ⟨.text, x ++ blank⟩ ∨ t ∈ before ++ ⟨.text, x⟩ :: behind := by
    simp only [List.mem_append, List.mem_cons] at ht ⊢
    tauto
  obtain ⟨hbefore, hchain, hlink⟩ := List.isChain_append.1 h.apart
  obtain ⟨hnext, hbehind⟩ := List.isChain_cons.1 hchain
  refine ⟨fun t ht hk => ?_, fun t ht hn => ?_,
    List.isChain_append.2 ⟨hbefore, List.isChain_cons.2 ⟨fun u hu => ⟨fun _ hk => ?_, fun hn => ?_⟩, hbehind⟩, ?_⟩⟩
  · rcases hmem ht with rfl | ht
    · have hx := h.text ⟨.text, x⟩ (by simp) rfl
      exact ⟨by simp [hx.1], hclear hx.2⟩
    · exact h.text t ht hk
  · rcases hmem ht with rfl | ht
    · rcases hn with hn | hn <;> cases hn
    · exact h.name t ht hn
  · exact hlast ((hnext u hu).1 rfl hk)
  · rcases hn with hn | hn <;> cases hn
  · -- what stands in front of a text does not heed what the text says
    intro t ht u hu
    cases Option.some.inj hu
    exact hlink t ht ⟨.text, x⟩ rfl

namespace Template

/-- White space is put at the end of a literal text that stands directly in front of a placeholder. The placeholder is
the one with the index `i`: as many names stand in front of it. -/
inductive Lengthened (blank : Text) (i : Nat) : Template → Template → Prop
  | intro {before behind : List Token} {x d : Text} : (literals .variableName before).length = i →
      Lengthened blank i ⟨before ++ ⟨.text, x⟩ :: ⟨.leftDelimiter, d⟩ :: behind⟩
        ⟨before ++ ⟨.text, x ++ blank⟩ :: ⟨.leftDelimiter, d⟩ :: behind⟩

variable {source blank : Text} {t t' : Template} {i : Nat}

/-- The layouts of an accepted template and of the same template with a literal lengthened. -/
theorem exists_layouts_of_lengthened (h : parse source = .ok t) (hb : ink blank = []) (ht : t.Lengthened blank i t') :
    ∃ l l' : Layout, t.tokens = l.tokens ∧ t'.tokens = l'.tokens ∧ l.Lengthened blank i l' ∧
      (∀ p ∈ l.parts, ink p.2 ≠ []) ∧ ∀ p ∈ l'.parts, ink p.2 ≠ [] := by
  obtain ⟨l, hl, hink⟩ := exists_layout_of_parse h
  obtain ⟨rfl⟩ := ht
  have hne : ∀ p ∈ l.parts, p.2 ≠ [] := fun p hp => Text.ne_nil_of_ink (hink p hp)
  obtain ⟨l', hl', hlong⟩ := Layout.exists_of_lengthened hne hl.symm blank
  exact ⟨l, l', hl, hl', hlong, hink, hlong.ink_ne_nil hb hink⟩

/-- **With white space at the end of a literal, an accepted template is accepted.** -/
theorem parse_of_lengthened (h : parse source = .ok t) (hb : ink blank = []) (ht : t.Lengthened blank i t') :
    parse (Token.print t'.tokens) = .ok t' := by
  obtain ⟨l, l', -, hl', -, -, hink'⟩ := exists_layouts_of_lengthened h hb ht
  have hlegible : Legible t'.tokens := by
    cases ht with
    | intro => exact (legible_of_parse h).lengthened hb
  exact parse_print hl' hlegible hink'

theorem placeholders_of_lengthened (h : parse source = .ok t) (hb : ink blank = []) (ht : t.Lengthened blank i t') :
    t'.placeholders = t.placeholders := by
  obtain ⟨l, l', hl, hl', hlong, -, -⟩ := exists_layouts_of_lengthened h hb ht
  rw [placeholders_of_layout hl, placeholders_of_layout hl', hlong.map_fst_parts]

/-- One segment has a longer literal: the one in front of the placeholder. -/
theorem segments_of_lengthened (h : parse source = .ok t) (hb : ink blank = []) (ht : t.Lengthened blank i t') :
    ∃ as s p y bs, t.segments = as ++ s :: ⟨some p, y⟩ :: bs ∧
      t'.segments = as ++ ⟨s.placeholder, s.literal ++ blank⟩ :: ⟨some p, y⟩ :: bs ∧
      ink y ≠ [] ∧ Segment.arity (as ++ [s]) = i := by
  obtain ⟨l, l', hl, hl', hlong, hink, hink'⟩ := exists_layouts_of_lengthened h hb ht
  rw [segments_of_layout hl hink, segments_of_layout hl' hink']
  cases hlong with
  | @lead x q qs hx =>
    refine ⟨[], ⟨none, x⟩, q.1, q.2, qs.map fun p => ⟨some p.1, p.2⟩, ?_, ?_, hink q List.mem_cons_self, rfl⟩
    · simp [hx]
    · simp [hx]
  | @part lead x p q ps qs =>
    refine ⟨(if lead = [] then [] else [⟨none, lead⟩]) ++ ps.map fun p => ⟨some p.1, p.2⟩, ⟨some p, x⟩, q.1, q.2,
      qs.map fun p => ⟨some p.1, p.2⟩, ?_, ?_, hink q (by simp), ?_⟩
    · simp
    · simp
    · by_cases hlead : lead = [] <;> simp [hlead, Segment.arity, List.filterMap_map]

end Template

end PageHarvest
