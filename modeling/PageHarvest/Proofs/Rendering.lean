import PageHarvest.Proofs.Simulation

/-!
# Rendering and extracting

`Template.render` puts values in the places of a template's placeholders. What it gives is read back by the extraction if
each value ends where its literal begins (`Closes`); between two rendered texts may stand whatever the literal in front
of the first placeholder does not begin in (`Noise`).

- `find?_of_closes`, `find?_of_free`: the literal behind a value, or behind noise, is found where it was put.
- `pass?_render`: one pass over a rendered text finds its values and covers the text exactly.
- `extract_render`: a record for each rendered text, in order.
-/

namespace PageHarvest

open Text (isBlank ink)

/-! ## Rendered texts -/

namespace Template

/-- The text of tokens with values in the places of the placeholders. -/
def renderFrom : List Token → List Text → Text
  | [], _ => []
  | t :: ts, values =>
    match t.kind with
    | .text => t.literal ++ renderFrom ts values
    | .variableName => values.headD [] ++ renderFrom ts values.tail
    | _ => renderFrom ts values

/-- The text of a template with values in the places of its placeholders. -/
def render (t : Template) (values : List Text) : Text := renderFrom t.tokens values

theorem renderFrom_ofText (x : Text) (ts : List Token) (values : List Text) :
    renderFrom (Token.ofText x ++ ts) values = x ++ renderFrom ts values := by
  by_cases hx : x = []
  · rw [hx]; rfl
  · rw [Token.ofText_of_ne hx]; rfl

theorem renderFrom_ofFilters (fs : List Text) (ts : List Token) (values : List Text) :
    renderFrom (Token.ofFilters fs ++ ts) values = renderFrom ts values := by
  induction fs with
  | nil => rfl
  | cons f fs ih => exact ih

theorem renderFrom_ofParts_cons (p : Placeholder) (x v : Text) (ps : List (Placeholder × Text)) (vs : List Text) :
    renderFrom (Token.ofParts ((p, x) :: ps)) (v :: vs) = v ++ (x ++ renderFrom (Token.ofParts ps) vs) := by
  simp [Token.ofParts, renderFrom, renderFrom_ofFilters, renderFrom_ofText]

end Template

/-- The text does not hold the first character of the literal that is ink. -/
def Free (literal text : Text) : Prop := ∀ c, (ink literal).head? = some c → c ∉ text

theorem free_iff {literal text : Text} : Free literal text ↔ (ink literal).head?.all (fun c => !text.contains c) = true := by
  simp [Free, Option.all_eq_true]

instance (literal text : Text) : Decidable (Free literal text) := decidable_of_iff _ free_iff.symm

/-- A value that ends where its literal begins: the literal does not begin in it, and no white space runs into it. -/
structure Closes (literal value : Text) : Prop where
  free : Free literal value
  last : ∀ c, value.getLast? = some c → isBlank c = false

theorem closes_iff {literal value : Text} :
    Closes literal value ↔ Free literal value ∧ value.getLast?.all (fun c => !isBlank c) = true := by
  simp only [Option.all_eq_true, Bool.not_eq_true']
  exact ⟨fun h => ⟨h.free, h.last⟩, fun h => ⟨h.1, h.2⟩⟩

instance (literal value : Text) : Decidable (Closes literal value) := decidable_of_iff _ closes_iff.symm

/-- One value for each placeholder of the segments, each of which ends where its literal begins. -/
inductive Row : List Segment → List Text → Prop
  | nil : Row [] []
  | lead {literal : Text} {ss : List Segment} {vs : List Text} : Row ss vs → Row (⟨none, literal⟩ :: ss) vs
  | value {p : Placeholder} {literal v : Text} {ss : List Segment} {vs : List Text} : Closes literal v → Row ss vs →
      Row (⟨some p, literal⟩ :: ss) (v :: vs)

/-- What may stand around rendered texts: a text in which the first literal does not begin, or nothing at all if the
segments begin with a placeholder or with a blank literal. -/
def Noise : List Segment → Text → Prop
  | ⟨none, literal⟩ :: _, noise => Free literal noise ∧ (ink literal = [] → noise = [])
  | _, noise => noise = []

/-! ## The literal behind a value -/

namespace Literal

variable {literal : Text}

/-- A literal does not begin in ink that does not hold its first character. -/
theorem after?_eq_none_of_free (hl : ink literal ≠ []) {g : Text} (hf : Free literal g) (hg : ink g ≠ [])
    (content : Text) : after? literal (g ++ content) = none := by
  obtain ⟨c, l, hc⟩ := List.exists_cons_of_ne_nil hl
  obtain ⟨d, g', hd⟩ := List.exists_cons_of_ne_nil hg
  rw [after?_eq_none_iff, Text.ink_append, hc, hd, List.cons_append, List.cons_prefix_cons]
  rintro ⟨rfl, -⟩
  have hm : c ∈ g := Text.mem_of_mem_ink (by rw [hd]; exact List.mem_cons_self)
  exact hf c (by rw [hc]; rfl) hm

/-- The literal behind a value is found where the value ends. -/
theorem find?_of_closes (hl : ink literal ≠ []) {v : Text} (hv : Closes literal v) (content : Text) :
    find? literal (v ++ (literal ++ content)) = some (v, content) := by
  have hne := Text.ne_nil_of_ink hl
  refine find?_eq_some_iff.2 ⟨literal ++ content, rfl, by simp [hne], after?_append_self _ _, fun g hg hg' => ?_⟩
  refine after?_eq_none_of_free hl (fun c hc hm => hv.free c hc (hg.subset hm)) (fun e => ?_) _
  -- the last character of the value is ink, so every end part has ink
  obtain ⟨front, rfl⟩ := hg
  have hlast := hv.last (g.getLast hg') (by rw [List.getLast?_append_of_ne_nil _ hg', List.getLast?_eq_some_getLast hg'])
  rw [Text.ink_eq_nil_iff.1 e _ (List.getLast_mem hg')] at hlast
  cases hlast

/-- The literal behind noise is found with the white space in front of it. -/
theorem find?_of_free (hl : ink literal ≠ []) {n : Text} (hn : Free literal n) (content : Text) :
    ∃ gap, find? literal (n ++ (literal ++ content)) = some (gap, content) := by
  by_cases hb : ink n = []
  · have hne := Text.ne_nil_of_ink hl
    exact ⟨[], find?_of_after? (by simp [hne]) (by rw [after?_blank_append hl hb, after?_append_self])⟩
  · cases n with
    | nil => exact absurd rfl hb
    | cons c n =>
      obtain ⟨gap, hg⟩ := find?_of_free hl (fun d hd hm => hn d hd (List.mem_cons_of_mem c hm)) content
      have ha := after?_eq_none_of_free hl hn hb (literal ++ content)
      rw [List.cons_append] at ha ⊢
      exact ⟨c :: gap, by rw [find?_of_after?_eq_none ha, hg]; rfl⟩

/-- In noise alone no literal is found. -/
theorem find?_eq_none_of_free (hl : ink literal ≠ []) {n : Text} (hn : Free literal n) : find? literal n = none := by
  obtain ⟨c, l, hc⟩ := List.exists_cons_of_ne_nil hl
  refine find?_eq_none_iff.2 fun m hm _ => after?_eq_none_iff.2 fun hp => ?_
  have hmem : c ∈ ink m := hp.subset (by rw [hc]; exact List.mem_cons_self)
  exact hn c (by rw [hc]; rfl) (hm.subset (Text.mem_of_mem_ink hmem))

end Literal

/-! ## Noise -/

/-- Nothing at all is noise. -/
theorem noise_nil (ss : List Segment) : Noise ss [] := by
  match ss with
  | [] => rfl
  | ⟨none, _⟩ :: _ => exact ⟨fun _ _ => List.not_mem_nil, fun _ => rfl⟩
  | ⟨some _, _⟩ :: _ => rfl

/-- In noise alone there is no pass. -/
theorem pass?_noise {ss : List Segment} (hs : ss ≠ []) {noise : Text} (hn : Noise ss noise) :
    Segment.pass? ss noise = none := by
  by_cases he : noise = []
  · rw [he, Segment.pass?_nil_right hs]
  · match ss with
    | [] => exact absurd rfl hs
    | ⟨none, literal⟩ :: ss =>
      have hl : ink literal ≠ [] := fun e => he (hn.2 e)
      rw [Segment.pass?, Literal.find?_eq_none_of_free hl hn.1]
    | ⟨some _, _⟩ :: _ => exact absurd hn he

/-- The first literal is found behind noise, and where it begins at once if it is blank. -/
theorem find?_of_noise {literal : Text} {ss : List Segment} {noise : Text} (hne : literal ≠ [])
    (hn : Noise (⟨none, literal⟩ :: ss) noise) (content : Text) :
    ∃ gap, Literal.find? literal (noise ++ (literal ++ content)) = some (gap, content) := by
  by_cases hb : ink literal = []
  · rw [hn.2 hb, List.nil_append]
    exact ⟨[], Literal.find?_of_after? (by simp [hne]) (Literal.after?_append_self _ _)⟩
  · exact Literal.find?_of_free hb hn.1 _

/-! ## One rendered text -/

/-- A pass over the placeholders of a layout finds the values that have been put in their places. -/
theorem pass?_ofParts {ps : List (Placeholder × Text)} (hps : ∀ p ∈ ps, ink p.2 ≠ []) {vs : List Text}
    (hr : Row (ps.map fun p => ⟨some p.1, p.2⟩) vs) (content : Text) :
    Segment.pass? (ps.map fun p => ⟨some p.1, p.2⟩) (Template.renderFrom (Token.ofParts ps) vs ++ content) =
      some (vs, content) := by
  induction ps generalizing vs with
  | nil =>
    cases hr
    rfl
  | cons p ps ih =>
    obtain ⟨hp, htail⟩ := List.forall_mem_cons.1 hps
    obtain ⟨p, x⟩ := p
    rcases hr with _ | _ | ⟨hv, hr⟩
    rename_i v vs
    rw [Template.renderFrom_ofParts_cons, List.append_assoc, List.append_assoc, List.map_cons,
      Segment.pass?_cons (Literal.find?_of_closes hp hv _), ih htail hr]
    rfl

section Rows

variable {source : Text} {t : Template} (h : Template.parse source = .ok t) (hs : t.segments ≠ [])
include h hs

/-- **A pass over a rendered text finds its values and covers it exactly**, noise in front of it being skipped. -/
theorem pass?_render {noise : Text} (hn : Noise t.segments noise) {vs : List Text} (hr : Row t.segments vs)
    (content : Text) : Segment.pass? t.segments (noise ++ (t.render vs ++ content)) = some (vs, content) := by
  obtain ⟨l, ht, hl⟩ := Template.exists_layout_of_parse h
  have hseg := Template.segments_of_layout ht hl
  have hrender : t.render vs = l.lead ++ Template.renderFrom (Token.ofParts l.parts) vs := by
    rw [Template.render, ht, Layout.tokens, Template.renderFrom_ofText]
  rw [hseg] at hn hr hs ⊢
  by_cases hx : l.lead = []
  · simp only [hx, if_true, List.nil_append] at hn hr hs hrender ⊢
    have hn : noise = [] := by
      cases hp : l.parts with
      | nil => rw [hp] at hs; exact absurd rfl hs
      | cons p ps => rw [hp] at hn; exact hn
    rw [hn, hrender]
    exact pass?_ofParts hl hr content
  · simp only [if_neg hx, List.singleton_append] at hn hr ⊢
    rw [hrender, List.append_assoc]
    rcases hr with _ | hr | _
    obtain ⟨gap, hgap⟩ := find?_of_noise hx hn (Template.renderFrom (Token.ofParts l.parts) vs ++ content)
    rw [Segment.pass?_cons hgap, pass?_ofParts hl hr content]
    rfl

/-- A rendered text is not empty, since a pass finds something in it. -/
theorem render_ne_nil {vs : List Text} (hr : Row t.segments vs) : t.render vs ≠ [] := by
  intro e
  have hp := pass?_render h hs (noise_nil t.segments) hr []
  rw [e, List.append_nil, List.append_nil, Segment.pass?_nil_right hs] at hp
  cases hp

/-! ## Many rendered texts -/

/-- The passes over rendered texts with noise around them give the values back. -/
theorem passes_render {rows : List (List Text × Text)} {noise : Text} (hn : Noise t.segments noise)
    (hr : ∀ r ∈ rows, Row t.segments r.1 ∧ Noise t.segments r.2) :
    Segment.passes t.segments (noise ++ rows.flatMap fun r => t.render r.1 ++ r.2) = rows.map Prod.fst := by
  induction rows generalizing noise with
  | nil =>
    rw [List.flatMap_nil, List.append_nil, Segment.passes_of_pass?_eq_none (pass?_noise hs hn), List.map_nil]
  | cons r rows ih =>
    obtain ⟨⟨hrow, hrn⟩, hr⟩ := List.forall_mem_cons.1 hr
    have hp := pass?_render h hs hn hrow (r.2 ++ rows.flatMap fun r => t.render r.1 ++ r.2)
    rw [List.flatMap_cons, List.append_assoc, Segment.passes_of_pass? hs hp, Segment.resume, if_neg, ih hrn hr,
      List.map_cons]
    have := List.length_pos_iff.2 (render_ne_nil h hs hrow)
    simp only [List.length_append]
    omega

end Rows

/-- **Rendering followed by extraction is the identity.** From rendered texts with noise around them the extraction gives
the records of their values, one for each text and in order. -/
theorem extract_render {source : Text} {t : Template} (h : Template.parse source = .ok t)
    (hl : ∃ x ∈ t.tokens, x.kind = .text) (reg : Registry) {noise : Text} {rows : List (List Text × Text)}
    (hn : Noise t.segments noise) (hr : ∀ r ∈ rows, Row t.segments r.1 ∧ Noise t.segments r.2) :
    extract t reg (noise ++ rows.flatMap fun r => t.render r.1 ++ r.2) =
      rows.map fun r => Placeholder.record reg t.placeholders r.1 := by
  have hs := Template.segments_ne_nil hl
  rw [extract_eq_passes h hs, passes_render h hs hn hr, List.map_map]
  rfl

/-- Two rendered texts with noise around them. The name comes up again, and has what the filter of its last placeholder
makes of the value there. -/
theorem extract_render_repeated :
    ∃ t, Template.parse "<\x7b\x7ba\x7d\x7d>\x7b\x7ba|uppercase\x7d\x7d;".toList = .ok t ∧
      (∃ x ∈ t.tokens, x.kind = .text) ∧ Noise t.segments [' ', '>'] ∧ Row t.segments [" x".toList, " y".toList] ∧
      Row t.segments [['z'], []] ∧ Noise t.segments [';'] ∧
      (extract t Registry.standard " >< x> y;<z>;;".toList).map Record.fields =
        [[(['a'], " Y".toList)], [(['a'], [])]] := by
  have hp : Template.parse "<\x7b\x7ba\x7d\x7d>\x7b\x7ba|uppercase\x7d\x7d;".toList =
      .ok ⟨Layout.tokens ⟨['<'], [(⟨['a'], []⟩, ['>']), (⟨['a'], ["uppercase".toList]⟩, [';'])]⟩⟩ := by decide +kernel
  have hl : ∃ x ∈ Layout.tokens ⟨['<'], [(⟨['a'], []⟩, ['>']), (⟨['a'], ["uppercase".toList]⟩, [';'])]⟩,
      x.kind = .text := by decide
  have noise (n : Text) (h : Free ['<'] n) : Noise [⟨none, ['<']⟩, ⟨some ⟨['a'], []⟩, ['>']⟩,
      ⟨some ⟨['a'], ["uppercase".toList]⟩, [';']⟩] n := ⟨h, nofun⟩
  have row (v w : Text) (hv : Closes ['>'] v) (hw : Closes [';'] w) : Row [⟨none, ['<']⟩, ⟨some ⟨['a'], []⟩, ['>']⟩,
      ⟨some ⟨['a'], ["uppercase".toList]⟩, [';']⟩] [v, w] := .lead (.value hv (.value hw .nil))
  have hx := row [' ', 'x'] [' ', 'y'] (by decide) (by decide)
  have hz := row ['z'] [] (by decide) (by decide)
  have hn := noise [' ', '>'] (by decide)
  have hend := noise [';'] (by decide)
  have hrows : ∀ r ∈ [([[' ', 'x'], [' ', 'y']], []), ([['z'], []], [';'])], Row [⟨none, ['<']⟩,
      ⟨some ⟨['a'], []⟩, ['>']⟩, ⟨some ⟨['a'], ["uppercase".toList]⟩, [';']⟩] r.1 ∧ Noise [⟨none, ['<']⟩,
        ⟨some ⟨['a'], []⟩, ['>']⟩, ⟨some ⟨['a'], ["uppercase".toList]⟩, [';']⟩] r.2 :=
    List.forall_mem_cons.2 ⟨⟨hx, noise [] (by decide)⟩, List.forall_mem_singleton.2 ⟨hz, hend⟩⟩
  have hrender := extract_render hp hl Registry.standard hn hrows
  exact ⟨_, hp, hl, hn, hx, hz, hend, (congrArg (List.map Record.fields) hrender).trans (by decide +kernel)⟩

end PageHarvest
