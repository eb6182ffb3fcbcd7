import PageHarvest.Proofs.ExtractionStep

/-!
# What the literals cover

A place of a content is covered if a literal that the extraction has found there runs over it. `Extraction.Consumes` says
this of the states that the extraction goes through, in passes that are completed and in the last one, which may not be.
`Segment.Covers` says it of the search.

- `Covers.suffix`, `not_covers_gap`: what is covered lies ahead, and not in front of the next literal.
- `Consumes.covers`: what the extraction covers is covered in the search.
-/

namespace PageHarvest

open Text (isBlank ink)

/-! ## In the search -/

namespace Segment

/-- A place is covered by a literal of the search that goes on at `x`, in a pass that began at `start` and has the
segments `rs` to come. -/
inductive Covers (ss : List Segment) : List Segment → Text → Text → Text → Prop
  | here {s : Segment} {rs : List Segment} {start x gap rest m : Text} : Literal.find? s.literal x = some (gap, rest) →
      m <:+ x.drop gap.length → rest.length < m.length → Covers ss (s :: rs) start x m
  | later {s : Segment} {rs : List Segment} {start x gap rest m : Text} :
      Literal.find? s.literal x = some (gap, rest) → Covers ss rs start rest m → Covers ss (s :: rs) start x m
  | again {start x m : Text} : Covers ss ss (resume start x) (resume start x) m → Covers ss [] start x m

variable {ss rs : List Segment} {s : Segment} {start x gap rest m : Text}

theorem resume_suffix (start x : Text) : resume start x <:+ x := by
  unfold resume
  split
  · exact List.drop_suffix 1 x
  · exact List.suffix_refl x

/-- What is covered lies ahead. -/
theorem Covers.suffix (h : Covers ss rs start x m) : m <:+ x := by
  induction h with
  | here _ hm _ => exact hm.trans (List.drop_suffix _ _)
  | later hf _ ih => exact ih.trans (Literal.suffix_of_find? hf)
  | again _ ih => exact ih.trans (resume_suffix _ _)

/-- What is left behind a literal is no longer than what its match begins with. -/
theorem length_le_of_find? (hf : Literal.find? s.literal x = some (gap, rest)) :
    rest.length ≤ (x.drop gap.length).length := by
  obtain ⟨m, rfl, -, hr, -⟩ := Literal.find?_eq_some_iff.1 hf
  rw [List.drop_left]
  exact Literal.length_after?_le hr

/-- Nothing is covered in front of the next literal. -/
theorem not_covers_gap (hf : Literal.find? s.literal x = some (gap, rest)) {g : Text} (hg : g ≠ []) :
    ¬ Covers ss (s :: rs) start x (g ++ x.drop gap.length) := by
  have hpos := List.length_pos_iff.2 hg
  rintro (⟨hf', hm, -⟩ | ⟨hf', hc⟩)
  · cases hf.symm.trans hf'
    have hlen := hm.length_le
    rw [List.length_append] at hlen
    omega
  · cases hf.symm.trans hf'
    have hlen := hc.suffix.length_le
    have hrest := length_le_of_find? hf
    rw [List.length_append] at hlen
    omega

/-- What is covered behind the next literal is covered by those that follow it. -/
theorem Covers.of_cons (hf : Literal.find? s.literal x = some (gap, rest)) (h : Covers ss (s :: rs) start x m)
    (hm : m <:+ rest) : Covers ss rs start rest m := by
  rcases h with ⟨hf', -, hlt⟩ | ⟨hf', hc⟩
  · cases hf.symm.trans hf'
    have hlen := hm.length_le
    omega
  · cases hf.symm.trans hf'
    exact hc

/-- The search for a literal slides over a character. -/
theorem Covers.slide {c : Char} (hn : Literal.after? s.literal (c :: x) = none) (h : Covers ss (s :: rs) start x m) :
    Covers ss (s :: rs) start (c :: x) m := by
  have hfind {gap rest : Text} (hf : Literal.find? s.literal x = some (gap, rest)) :
      Literal.find? s.literal (c :: x) = some (c :: gap, rest) := by
    rw [Literal.find?_of_after?_eq_none hn, hf]
    rfl
  rcases h with ⟨hf, hm, hlt⟩ | ⟨hf, hc⟩
  · exact .here (hfind hf) hm hlt
  · exact .later (hfind hf) hc

end Segment

/-! ## In the extraction -/

namespace Extraction

variable {t : Template} {reg : Registry} {s s' : State} {m : Text}

/-- The literal that is looked for stands at the cursor and runs over a place. -/
def State.Takes (s : State) (m : Text) : Prop :=
  ∃ x ahead rest, s.ahead = x :: ahead ∧ x.kind = .text ∧ Literal.after? x.literal s.rest = some rest ∧
    m <:+ s.rest ∧ rest.length < m.length

/-- **The extraction covers a place of the content:** on its way it comes to a state in which a literal runs over it. -/
def Consumes (t : Template) (reg : Registry) (content m : Text) : Prop :=
  ∃ n s, steps? (next? t reg) n (begin t content) = some s ∧ s.Takes m

/-- The places that the search covers from a state on. -/
def State.Covers (t : Template) (s : State) (m : Text) : Prop :=
  Segment.Covers t.segments s.segments s.passStart s.rest m

theorem segments_of_text {x : Token} {ahead : List Token} (ha : s.ahead = x :: ahead) (hk : x.kind = .text) :
    s.segments = ⟨s.capture.map Capture.placeholder, x.literal⟩ :: Template.segmentsFrom none ahead := by
  simp [State.segments, ha, Template.segmentsFrom, hk]

theorem State.Takes.covers (h : s.Takes m) : s.Covers t m := by
  obtain ⟨x, ahead, rest, ha, hk, hr, hm, hlt⟩ := h
  have hne : s.rest ≠ [] := by
    intro e
    have hlen := hm.length_le
    rw [e, List.length_nil] at hlen
    omega
  rw [State.Covers, segments_of_text ha hk]
  exact .here (Literal.find?_of_after? hne hr) hm hlt

/-- **What the search covers behind a step, it covers in front of it.** -/
theorem Step.covers (hs : s.Ready) (h : Step t reg s s') (hc : s'.Covers t m) : s.Covers t m := by
  unfold State.Covers at hc ⊢
  cases h with
  | found ha hk hne hr =>
    rw [segments_of_text ha hk]
    exact .later (Literal.find?_of_after? hne hr) hc
  | @slid x ahead c slid ha hk hr hn =>
    have hseg : ({ s with rest := slid } : State).segments = s.segments := rfl
    rw [hseg, segments_of_text ha hk] at hc
    rw [segments_of_text ha hk, hr]
    exact hc.slide hn
  | @opened x ahead ha hk =>
    have hseg : s.segments = Template.segmentsFrom (some ⟨x.literal, Template.leadingFilters ahead⟩) ahead := by
      simp [State.segments, ha, Template.segmentsFrom, hk]
    rw [hseg]
    exact hc
  | @passed x ahead ha hk =>
    have hseg : s.segments = Template.segmentsFrom (s.capture.map Capture.placeholder) ahead := by
      rcases hk with hk | hk | hk | hk <;> simp [State.segments, ha, Template.segmentsFrom, hk]
    rw [hseg]
    exact hc
  | finished hcomplete hne =>
    have hseg : s.segments = [] := by
      rw [State.segments, hs.ahead_of_complete hcomplete]
      rfl
    rw [hseg]
    exact .again hc

/-- What a literal runs over after some steps is covered in front of them. -/
theorem covers_of_steps? (ht : ∃ ts, Inner ts ∧ t.tokens = ts ++ [Token.final]) {n : Nat} (hs : s.Ready)
    (h : steps? (next? t reg) n s = some s') (hm : s'.Takes m) : s.Covers t m := by
  -- what is covered behind some steps is carried back over one step more
  have hback : s'.Ready ∧ (s'.Covers t m → s.Covers t m) := by
    refine of_steps? (P := fun x => x.Ready ∧ (x.Covers t m → s.Covers t m)) (fun x y hx hn => ?_) ⟨hs, id⟩ h
    have hstep := Step.of_next? hn
    exact ⟨hstep.ready ht hx.1, fun hy => hx.2 (hstep.covers hx.1 hy)⟩
  exact hback.2 hm.covers

/-- What the extraction covers is covered in the search. -/
theorem Consumes.covers {source content : Text} (h : Template.parse source = .ok t) (hm : Consumes t reg content m) :
    Segment.Covers t.segments t.segments content content m := by
  obtain ⟨ts, hts, ht⟩ := exists_inner_of_parse h
  obtain ⟨n, s, hn, htakes⟩ := hm
  exact covers_of_steps? ⟨ts, hts, ht⟩ (ready_begin hts ht content) hn htakes

end Extraction

end PageHarvest
