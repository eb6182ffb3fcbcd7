import PageHarvest.Proofs.Respacing
import PageHarvest.Proofs.TrailingSpace

/-!
# White space at the end of a definition

White space at the end of a definition, such as the newline that ends a file, belongs to its last literal. Behind each
record this literal then takes white space that the next pass would have begun with (`Literal.spared`). A pass that
begins with a literal that has ink does not miss it.

- `Template.exists_parse_append_blank`: the longer definition is accepted, and its last literal is longer.
- `Segment.passes_spared`: white space at the beginning of a content does not matter to such passes.
- `Segment.passes_append_blank`: all passes find the same values.
- `extract_append_blank`: the records are the same.
-/

namespace PageHarvest

open Text (isBlankText ink)

/-! ## Layouts -/

/-- White space is put at the end of the last literal text of a layout. -/
inductive Layout.Trailed (blank : Text) : Layout → Layout → Prop
  | lead {x : Text} : x ≠ [] → Trailed blank ⟨x, []⟩ ⟨x ++ blank, []⟩
  | part {lead x : Text} {p : Placeholder} {ps : List (Placeholder × Text)} : x ≠ [] →
      Trailed blank ⟨lead, ps ++ [(p, x)]⟩ ⟨lead, ps ++ [(p, x ++ blank)]⟩

/-- The tokens of placeholders come one after the other. -/
theorem Token.ofParts_append (ps qs : List (Placeholder × Text)) :
    ofParts (ps ++ qs) = (ps.flatMap fun p => ofPlaceholder p.1 ++ ofText p.2) ++ ofParts qs := by
  induction ps with
  | nil => rfl
  | cons p ps ih =>
    obtain ⟨p, x⟩ := p
    rw [List.cons_append, ofParts_cons, ih]
    simp

namespace Layout

variable {blank : Text} {l l' : Layout}

/-- There is a last literal text if all texts but the lead have ink, and the lead has too. -/
theorem exists_trailed (hlead : ink l.lead ≠ []) (hl : ∀ p ∈ l.parts, ink p.2 ≠ []) (blank : Text) :
    ∃ l', l.Trailed blank l' := by
  obtain ⟨lead, parts⟩ := l
  rcases List.eq_nil_or_concat parts with rfl | ⟨ps, ⟨p, x⟩, rfl⟩
  · exact ⟨_, .lead (Text.ne_nil_of_ink hlead)⟩
  · rw [List.concat_eq_append] at hl ⊢
    exact ⟨_, .part (Text.ne_nil_of_ink (hl (p, x) (by simp)))⟩

/-- One token is longer: the text in front of the end of the template. -/
theorem Trailed.exists_tokens (h : l.Trailed blank l') : ∃ before x, l.tokens = before ++ [⟨.text, x⟩, Token.final] ∧
    l'.tokens = before ++ [⟨.text, x ++ blank⟩, Token.final] := by
  cases h with
  | @lead x hx =>
    have hx' : x ++ blank ≠ [] := by simp [hx]
    refine ⟨[], x, ?_, ?_⟩
    · simp [tokens, Token.ofText_of_ne hx, Token.ofParts]
    · simp [tokens, Token.ofText_of_ne hx', Token.ofParts]
  | @part lead x p ps hx =>
    have hx' : x ++ blank ≠ [] := by simp [hx]
    let front := Token.ofText lead ++ ((ps.flatMap fun q => Token.ofPlaceholder q.1 ++ Token.ofText q.2) ++
      Token.ofPlaceholder p)
    have htokens {y : Text} (hy : y ≠ []) :
        (⟨lead, ps ++ [(p, y)]⟩ : Layout).tokens = front ++ [⟨.text, y⟩, Token.final] := by
      rw [tokens, Token.ofParts_append, Token.ofParts_cons, Token.ofText_of_ne hy]
      simp [front, Token.ofParts]
    exact ⟨front, x, htokens hx, htokens hx'⟩

/-- The literal texts behind the placeholders keep their ink. -/
theorem Trailed.ink_ne_nil (h : l.Trailed blank l') (hb : ink blank = []) (hl : ∀ p ∈ l.parts, ink p.2 ≠ []) :
    ∀ p ∈ l'.parts, ink p.2 ≠ [] := by
  cases h with
  | lead => exact hl
  | @part lead x p ps =>
    intro r hr
    rcases List.mem_append.1 hr with hr | hr
    · exact hl r (List.mem_append_left _ hr)
    · rw [List.mem_singleton.1 hr, Text.ink_append, hb, List.append_nil]
      exact hl (p, x) (by simp)

theorem Trailed.map_fst_parts (h : l.Trailed blank l') : l'.parts.map Prod.fst = l.parts.map Prod.fst := by
  cases h <;> simp

end Layout

/-! ## Templates -/

namespace Template

variable {source blank : Text} {t : Template}

/-- A definition that begins with a text has a lead. -/
theorem lead_of_head {l : Layout} (hl : t.tokens = l.tokens) {x : Token} (hx : t.tokens.head? = some x)
    (hk : x.kind = .text) : l.lead = x.literal := by
  obtain ⟨lead, parts⟩ := l
  rw [hl, Layout.tokens] at hx
  by_cases hlead : lead = []
  · subst hlead
    cases parts with
    | nil =>
      cases hx
      cases hk
    | cons p ps =>
      cases hx
      cases hk
  · rw [Token.ofText_of_ne hlead] at hx
    cases hx
    rfl

/-- The first segment of such a definition is its lead. -/
theorem exists_segments_of_head (h : parse source = .ok t) {x : Token} (hx : t.tokens.head? = some x)
    (hk : x.kind = .text) (hink : ink x.literal ≠ []) : ∃ ss, t.segments = ⟨none, x.literal⟩ :: ss := by
  obtain ⟨l, hl, hparts⟩ := exists_layout_of_parse h
  have hlead := lead_of_head hl hx hk
  rw [segments_of_layout hl hparts, hlead, if_neg (Text.ne_nil_of_ink hink)]
  exact ⟨_, rfl⟩

section Trailed

variable {l l' : Layout} (hl : t.tokens = l.tokens) (hparts : ∀ p ∈ l.parts, ink p.2 ≠ []) (ht : l.Trailed blank l')
  (hb : ink blank = [])
include hl hparts ht hb

/-- White space at the end of the last literal is white space at the end of the definition. -/
theorem parse_of_trailed (h : parse source = .ok t) : parse (source ++ blank) = .ok ⟨l'.tokens⟩ := by
  obtain ⟨before, y, htokens, htokens'⟩ := ht.exists_tokens
  have hlegible : Legible l'.tokens := by
    rw [htokens']
    apply Legible.lengthened hb
    rw [← htokens, ← hl]
    exact legible_of_parse h
  have hprint : Token.print l'.tokens = source ++ blank := by
    have hsource : Token.print t.tokens = source := print_of_parse h
    rw [← hsource, hl, htokens, htokens']
    simp
  have hparse : parse (Token.print l'.tokens) = .ok ⟨l'.tokens⟩ :=
    parse_print rfl hlegible (ht.ink_ne_nil hb hparts)
  rwa [hprint] at hparse

/-- The last segment has the longer literal. -/
theorem segments_of_trailed : ∃ as s, t.segments = as ++ [s] ∧
    segments ⟨l'.tokens⟩ = as ++ [⟨s.placeholder, s.literal ++ blank⟩] := by
  have hsegments := segments_of_layout hl hparts
  have hsegments' := segments_of_layout (t := ⟨l'.tokens⟩) rfl (ht.ink_ne_nil hb hparts)
  cases ht with
  | @lead y hy =>
    refine ⟨[], ⟨none, y⟩, ?_, ?_⟩
    · simpa [hy] using hsegments
    · simpa [hy] using hsegments'
  | @part lead y p ps hy =>
    refine ⟨(if lead = [] then [] else [⟨none, lead⟩]) ++ ps.map fun q => ⟨some q.1, q.2⟩, ⟨some p, y⟩, ?_, ?_⟩
    · simpa using hsegments
    · simpa using hsegments'

end Trailed

/-- **With white space at its end, a definition that begins with a literal with ink is accepted.** One segment has a
longer literal: the last one. -/
theorem exists_parse_append_blank (h : parse source = .ok t) {x : Token} (hx : t.tokens.head? = some x)
    (hk : x.kind = .text) (hink : ink x.literal ≠ []) (hb : ink blank = []) :
    ∃ t' as s, parse (source ++ blank) = .ok t' ∧ t'.placeholders = t.placeholders ∧ t.segments = as ++ [s] ∧
      t'.segments = as ++ [⟨s.placeholder, s.literal ++ blank⟩] := by
  obtain ⟨l, hl, hparts⟩ := exists_layout_of_parse h
  have hlead : l.lead = x.literal := lead_of_head hl hx hk
  obtain ⟨l', htrailed⟩ := Layout.exists_trailed (hlead ▸ hink) hparts blank
  have hplaceholders : placeholders ⟨l'.tokens⟩ = t.placeholders := by
    rw [placeholders_of_layout hl, placeholders_of_layout (t := ⟨l'.tokens⟩) rfl, htrailed.map_fst_parts]
  obtain ⟨as, s, hs, hs'⟩ := segments_of_trailed hl hparts htrailed hb
  exact ⟨_, as, s, parse_of_trailed hl hparts htrailed hb h, hplaceholders, hs, hs'⟩

end Template

/-! ## Passes -/

namespace Segment

open Literal (spared)

variable {blank : Text} (hb : ink blank = [])
include hb

/-- White space at the end of the last literal takes white space from what is left. -/
theorem pass?_append_blank_last (as : List Segment) (s : Segment) (content : Text) :
    pass? (as ++ [⟨s.placeholder, s.literal ++ blank⟩]) content =
      (pass? (as ++ [s]) content).map (Prod.map id (spared blank)) := by
  induction as generalizing content with
  | nil =>
    simp only [List.nil_append, pass?, Literal.find?_append_blank hb]
    cases Literal.find? s.literal content with
    | none => rfl
    | some found => rfl
  | cons a as ih =>
    simp only [List.cons_append]
    cases hf : Literal.find? a.literal content with
    | none => simp only [pass?, hf, Option.map_none]
    | some found =>
      obtain ⟨gap, rest⟩ := found
      rw [pass?_cons hf, pass?_cons hf, ih]
      cases pass? (as ++ [s]) rest <;> rfl

section Head

variable {x : Text} (hx : ink x ≠ []) (ss : List Segment)
include hx

/-- White space at the beginning of a content does not matter to a pass that begins with a literal with ink. -/
theorem pass?_spared (content : Text) :
    pass? (⟨none, x⟩ :: ss) (spared blank content) = pass? (⟨none, x⟩ :: ss) content := by
  simp only [pass?, Literal.find?_spared hb hx]
  cases Literal.find? x content <;> rfl

theorem passes_spared (content : Text) :
    passes (⟨none, x⟩ :: ss) (spared blank content) = passes (⟨none, x⟩ :: ss) content := by
  have hne : (⟨none, x⟩ : Segment) :: ss ≠ [] := List.cons_ne_nil _ _
  have hsame := pass?_spared hb hx ss content
  cases hp : pass? (⟨none, x⟩ :: ss) content with
  | none => rw [passes_of_pass?_eq_none hp, passes_of_pass?_eq_none (hsame.trans hp)]
  | some pass =>
    obtain ⟨values, rest⟩ := pass
    have hink : ∃ s ∈ (⟨none, x⟩ : Segment) :: ss, ink s.literal ≠ [] := ⟨_, List.mem_cons_self, hx⟩
    have hlt := length_pass?_lt hink hp
    have hlt' := length_pass?_lt hink (hsame.trans hp)
    rw [passes_of_pass? hne hp, passes_of_pass? hne (hsame.trans hp), resume_of_lt hlt, resume_of_lt hlt']

end Head

/-- **White space at the end of the last literal does not matter** if the first one has ink and no placeholder stands in
front of it. -/
theorem passes_append_blank {x : Text} (hx : ink x ≠ []) {as ss : List Segment} {s : Segment}
    (hs : as ++ [s] = ⟨none, x⟩ :: ss) (content : Text) :
    passes (as ++ [⟨s.placeholder, s.literal ++ blank⟩]) content = passes (as ++ [s]) content := by
  have hp' := pass?_append_blank_last hb as s content
  cases hp : pass? (as ++ [s]) content with
  | none =>
    rw [hp] at hp'
    rw [passes_of_pass?_eq_none hp, passes_of_pass?_eq_none hp']
  | some pass =>
    obtain ⟨values, rest⟩ := pass
    rw [hp] at hp'
    have hink : ∃ s' ∈ as ++ [s], ink s'.literal ≠ [] := by
      rw [hs]
      exact ⟨_, List.mem_cons_self, hx⟩
    have hlt : rest.length < content.length := length_pass?_lt hink hp
    have hle : (spared blank rest).length ≤ rest.length :=
      (Literal.after?_suffix (Literal.after?_eq_spared hb rest)).length_le
    have hnext : passes (as ++ [s]) (spared blank rest) = passes (as ++ [s]) rest := by
      rw [hs]
      exact passes_spared hb hx ss rest
    rw [passes_of_pass? (by simp) hp, passes_of_pass? (by simp) hp', resume_of_lt hlt]
    show values :: passes _ (resume content (spared blank rest)) = _
    rw [resume_of_lt (by omega), passes_append_blank hx hs (spared blank rest), hnext]
termination_by content.length

end Segment

/-! ## Records -/

/-- **White space at the end of a definition does not matter** if the definition begins with a literal that is not blank:
with it the definition is accepted, and has the same records in every content. -/
theorem extract_append_blank {source : Text} {t : Template} (h : Template.parse source = .ok t) {x : Token}
    (hx : t.tokens.head? = some x) (hk : x.kind = .text) (hink : isBlankText x.literal = false) {blank : Text}
    (hb : isBlankText blank = true) : ∃ t', Template.parse (source ++ blank) = .ok t' ∧
      ∀ (reg : Registry) (content : Text), extract t' reg content = extract t reg content := by
  have hink' : ink x.literal ≠ [] := by
    intro e
    rw [Text.isBlankText_iff.2 e] at hink
    cases hink
  have hb' : ink blank = [] := Text.isBlankText_iff.1 hb
  obtain ⟨t', as, s, h', hplaceholders, hs, hs'⟩ := Template.exists_parse_append_blank h hx hk hink' hb'
  obtain ⟨ss, hss⟩ := Template.exists_segments_of_head h hx hk hink'
  refine ⟨t', h', fun reg content => ?_⟩
  rw [extract_eq_passes h (by simp [hs]), extract_eq_passes h' (by simp [hs']), hplaceholders, hs, hs',
    Segment.passes_append_blank hb' hink' (hs.symm.trans hss)]

/-- The newline behind the definition takes the newline between the two records, and none behind the last one. -/
theorem extract_append_blank_newline :
    ∃ t t', Template.parse "<\x7b\x7ba\x7d\x7d>".toList = .ok t ∧
      Template.parse "<\x7b\x7ba\x7d\x7d>\n".toList = .ok t' ∧
      (extract t Registry.standard "<x>\n<y>".toList).map Record.fields = [[(['a'], ['x'])], [(['a'], ['y'])]] ∧
      extract t' Registry.standard "<x>\n<y>".toList = extract t Registry.standard "<x>\n<y>".toList := by
  have hp : Template.parse "<\x7b\x7ba\x7d\x7d>".toList =
      .ok ⟨Layout.tokens ⟨['<'], [(⟨['a'], []⟩, ['>'])]⟩⟩ := by decide +kernel
  have hb : isBlankText ['\n'] = true := by decide
  obtain ⟨t', hp', hsame⟩ := extract_append_blank hp (x := ⟨.text, ['<']⟩) rfl rfl (by decide) hb
  refine ⟨_, t', hp, hp', ?_, hsame _ _⟩
  rw [extract_eq_passes hp (by decide)]
  decide +kernel

end PageHarvest
