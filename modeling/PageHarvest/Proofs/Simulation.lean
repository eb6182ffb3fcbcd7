import PageHarvest.Proofs.PassRecord
import PageHarvest.Proofs.Search

/-!
# The extraction is the search

The machine of `Extraction.step` and the search of `Segment.passes` find the same. The invariant between two literals is
that an open placeholder has begun where the rest of the content begins (`Fresh`); then the tokens in front of the next
literal only set the placeholder (`run_pass`), and a literal is looked for as `Literal.find?` does (`run_text`).

- `run_begin`: from the beginning of a pass on, the machine emits the records of all passes.
- `extract_eq_passes`: the records of an accepted template are made from the values of the passes over its segments.
- `extract_of_shapes_eq`: templates whose segments have the same shapes find the same values.
-/

namespace PageHarvest

namespace Extraction

open Template (segmentsFrom)

variable {t : Template} {reg : Registry}

/-- The placeholder that a capture belongs to. -/
def Capture.placeholder (c : Capture) : Placeholder := ⟨c.name, c.filters⟩

/-! ## One literal -/

theorem run_of_go {s s' : State} (h : step t reg s = .go s') : run t reg s = run t reg s' := by
  rw [run]
  split <;> rename_i h' <;> cases h.symm.trans h'
  rfl

theorem run_of_stop {s : State} (h : step t reg s = .stop) : run t reg s = [] := by
  rw [run]
  split <;> rename_i h' <;> cases h.symm.trans h'
  rfl

/-- The machine slides over the content until the literal matches. -/
theorem run_text {x : Token} (hx : x.kind = .text) {ahead : List Token} (content : Text) {s : State}
    (hs : s.ahead = x :: ahead) (hc : s.rest = content) : run t reg s =
      match Literal.find? x.literal content with
      | none => []
      | some (gap, rest) => run t reg { s with
          rest, ahead, capture := none, record := close reg (content.drop gap.length) s.record s.capture } := by
  induction content generalizing s with
  | nil => exact run_of_stop (by simp [step, hs, hx, hc])
  | cons c content ih =>
    cases ha : Literal.after? x.literal (c :: content) with
    | some rest =>
      rw [Literal.find?_of_after? (List.cons_ne_nil _ _) ha]
      exact run_of_go (by simp [step, hs, hx, hc, ha])
    | none =>
      have hgo : step t reg s = .go { s with rest := content } := by simp [step, hs, hx, hc, ha]
      rw [Literal.find?_of_after?_eq_none ha, run_of_go hgo, ih (s := { s with rest := content }) hs rfl]
      cases Literal.find? x.literal content with
      | none => rfl
      | some found => rfl

/-! ## One pass -/

/-- An open placeholder has begun where the rest of the content begins. -/
def Fresh (s : State) : Prop := ∀ c, s.capture = some c → c.start = s.rest

theorem fresh_of_closed {passStart rest : Text} {ahead : List Token} {record : Record} :
    Fresh ⟨passStart, rest, ahead, none, record⟩ := by
  intro c hc
  cases hc

theorem fresh_of_opened {passStart rest name : Text} {filters : List Text} {ahead : List Token} {record : Record} :
    Fresh ⟨passStart, rest, ahead, some ⟨name, filters, rest⟩, record⟩ := by
  intro c hc
  cases hc
  rfl

/-- The tokens inside a template: all but its end. -/
def Inner (ts : List Token) : Prop := ∀ x ∈ ts, x.kind ≠ .endOfTemplate ∧ x.kind ≠ .error

theorem between_append (gap m : Text) : between (gap ++ m) m = gap := by
  simp [between]

/-- Closing a placeholder sets its field, if there is one. -/
theorem close_eq {record : Record} {gap m : Text} {capture : Option Capture}
    (hc : ∀ c, capture = some c → c.start = gap ++ m) : close reg m record capture =
      record.insertAll (Placeholder.fields reg (capture.map Capture.placeholder).toList
        (if capture.isSome then [gap] else [])) := by
  cases capture with
  | none => rfl
  | some c =>
    simp only [close, hc c rfl, between_append, Option.map_some, Option.toList_some, Option.isSome_some, if_true]
    by_cases hd : c.name = discard <;>
      simp [hd, Placeholder.fields, Capture.placeholder, Record.insertAll, Registry.applyChain_eq]

/-- What the machine emits behind a pass that began at `start` and leaves `rest`. -/
def emitted (t : Template) (reg : Registry) (start : Text) (record : Record) (rest : Text) : List Record :=
  record :: if Segment.resume start rest = [] then [] else run t reg (begin t (Segment.resume start rest))

theorem run_of_finishPass {s : State} (h : step t reg s = finishPass t s) :
    run t reg s = emitted t reg s.passStart s.record s.rest := by
  have hn : nextStart s = Segment.resume s.passStart s.rest := rfl
  rw [finishPass, hn] at h
  rw [run, emitted]
  split <;> rename_i h' <;> rw [h] at h'
  · cases h'
  · obtain ⟨rfl, hi⟩ := Move.emit.inj h'
    rw [if_pos (by simpa using hi)]
  · obtain ⟨rfl, hi⟩ := Move.emit.inj h'
    obtain ⟨hne, rfl⟩ := by simpa using hi
    rw [if_neg hne]
  · cases h'

/-- The segments that are still to come. -/
def State.segments (s : State) : List Segment := segmentsFrom (s.capture.map Capture.placeholder) s.ahead

/-- What the search finds from a state on. -/
def found (t : Template) (reg : Registry) (s : State) : List Record :=
  match Segment.pass? s.segments s.rest with
  | none => []
  | some (values, rest) => emitted t reg s.passStart
      (s.record.insertAll (Placeholder.fields reg (s.segments.filterMap Segment.placeholder) values)) rest

theorem filterMap_placeholder_cons (p : Option Placeholder) (l : Text) (ss : List Segment) :
    (⟨p, l⟩ :: ss).filterMap Segment.placeholder = p.toList ++ ss.filterMap Segment.placeholder := by
  cases p <;> rfl

/-- The search for the next literal, and what is found behind it. -/
theorem found_text {x : Token} (hx : x.kind = .text) {ahead : List Token} {s : State} (hs : s.ahead = x :: ahead)
    (hf : Fresh s) : found t reg s =
      match Literal.find? x.literal s.rest with
      | none => []
      | some (gap, rest) => found t reg { s with
          rest, ahead, capture := none, record := close reg (s.rest.drop gap.length) s.record s.capture } := by
  have hseg : s.segments = ⟨s.capture.map Capture.placeholder, x.literal⟩ :: segmentsFrom none ahead := by
    simp [State.segments, hs, segmentsFrom, hx]
  rw [found, hseg, Segment.pass?]
  cases hl : Literal.find? x.literal s.rest with
  | none => rfl
  | some found? =>
    obtain ⟨gap, rest⟩ := found?
    obtain ⟨m, hm, -⟩ := Literal.find?_eq_some_iff.1 hl
    simp only [found, State.segments, Option.map_none]
    cases hp : Segment.pass? (segmentsFrom none ahead) rest with
    | none => rfl
    | some pass =>
      obtain ⟨values, rest'⟩ := pass
      have hc : ∀ c, s.capture = some c → c.start = gap ++ m := fun c hc => (hf c hc).trans hm
      have hd : s.rest.drop gap.length = m := by simp [hm]
      simp only [Option.map_some, hd, close_eq hc, ← Record.insertAll_append, filterMap_placeholder_cons]
      rw [← Placeholder.fields_append]
      · simp [Segment.value]
      · cases s.capture <;> rfl

/-- **One pass of the machine is one pass of the search.** -/
theorem run_pass {ts : List Token} (hts : Inner ts) {s : State} (ha : s.ahead = ts ++ [Token.final]) (hf : Fresh s) :
    run t reg s = found t reg s := by
  induction ts generalizing s with
  | nil =>
    rw [run_of_finishPass (by simp [step, ha, Token.final])]
    simp [found, State.segments, ha, segmentsFrom, Token.final, Segment.pass?, Placeholder.fields, Record.insertAll]
  | cons x ts ih =>
    obtain ⟨hx, hts⟩ := List.forall_mem_cons.1 hts
    cases hk : x.kind with
    | text =>
      rw [run_text hk s.rest ha rfl, found_text hk ha hf]
      cases Literal.find? x.literal s.rest with
      | none => rfl
      | some found? => exact ih hts rfl fresh_of_closed
    | variableName =>
      have hgo : step t reg s = .go { s with
          ahead := ts ++ [Token.final],
          capture := some ⟨x.literal, Template.leadingFilters (ts ++ [Token.final]), s.rest⟩ } := by
        simp [step, ha, hk]
      rw [run_of_go hgo, ih hts rfl fresh_of_opened]
      simp [found, State.segments, ha, segmentsFrom, hk, Capture.placeholder]
    | leftDelimiter | rightDelimiter | pipe | filterName =>
      have hgo : step t reg s = .go { s with ahead := ts ++ [Token.final] } := by simp [step, ha, hk]
      rw [run_of_go hgo, ih (s := { s with ahead := ts ++ [Token.final] }) hts rfl hf]
      simp [found, State.segments, ha, segmentsFrom, hk]
    | endOfTemplate => exact absurd hk hx.1
    | error => exact absurd hk hx.2

/-! ## All passes -/

/-- From the beginning of a pass on, the machine emits the records of all passes. -/
theorem run_begin {ts : List Token} (hts : Inner ts) (ht : t.tokens = ts ++ [Token.final]) (hs : t.segments ≠ [])
    (content : Text) : run t reg (begin t content) = (Segment.passes t.segments content).map
      (Placeholder.record reg (t.segments.filterMap Segment.placeholder)) := by
  have hp : run t reg (begin t content) =
      match Segment.pass? t.segments content with
      | none => []
      | some (values, rest) => emitted t reg content
          (Placeholder.record reg (t.segments.filterMap Segment.placeholder) values) rest := by
    simp only [← Placeholder.ofList_fields]
    exact run_pass (s := begin t content) hts ht fresh_of_closed
  rw [hp]
  cases hf : Segment.pass? t.segments content with
  | none => rw [Segment.passes_of_pass?_eq_none hf, List.map_nil]
  | some pass =>
    obtain ⟨values, rest⟩ := pass
    rw [Segment.passes_of_pass? hs hf, List.map_cons]
    simp only [emitted]
    by_cases he : Segment.resume content rest = []
    · rw [if_pos he, he, Segment.passes_of_pass?_eq_none (Segment.pass?_nil_right hs), List.map_nil]
    · have := Segment.length_resume_lt hf he
      rw [if_neg he, run_begin hts ht hs (Segment.resume content rest)]
termination_by content.length

/-! ## Accepted templates -/

theorem Inner.append {ts us : List Token} (ht : Inner ts) (hu : Inner us) : Inner (ts ++ us) := by
  intro x hx
  rcases List.mem_append.1 hx with hx | hx
  · exact ht x hx
  · exact hu x hx

theorem Inner.cons {x : Token} {ts : List Token} (hx : x.kind ≠ .endOfTemplate ∧ x.kind ≠ .error) (ht : Inner ts) :
    Inner (x :: ts) := List.forall_mem_cons.2 ⟨hx, ht⟩

theorem inner_ofText (x : Text) : Inner (Token.ofText x) := by
  intro y hy
  obtain ⟨-, rfl⟩ := Token.mem_ofText.1 hy
  simp

theorem inner_ofFilters (fs : List Text) : Inner (Token.ofFilters fs) := by
  induction fs with
  | nil => simp [Inner]
  | cons f fs ih => exact .cons (by simp) (.cons (by simp) ih)

theorem exists_inner_ofParts (ps : List (Placeholder × Text)) :
    ∃ ts, Token.ofParts ps = ts ++ [Token.final] ∧ Inner ts := by
  induction ps with
  | nil => exact ⟨[], rfl, by simp [Inner]⟩
  | cons p ps ih =>
    obtain ⟨ts, e, hts⟩ := ih
    have hbehind : Inner (⟨.rightDelimiter, Token.closing⟩ :: (Token.ofText p.2 ++ ts)) :=
      .cons (by simp) ((inner_ofText _).append hts)
    have hname : Inner (⟨.variableName, p.1.name⟩ :: (Token.ofFilters p.1.filters ++ _)) :=
      .cons (by simp) ((inner_ofFilters _).append hbehind)
    exact ⟨_, by simp [Token.ofParts, e], .cons (x := ⟨.leftDelimiter, Token.opening⟩) (by simp) hname⟩

/-- The tokens of an accepted template end in its end, and nowhere else. -/
theorem exists_inner_of_parse {source : Text} (h : Template.parse source = .ok t) :
    ∃ ts, Inner ts ∧ t.tokens = ts ++ [Token.final] := by
  obtain ⟨l, ht, -⟩ := Template.exists_layout_of_parse h
  obtain ⟨ts, e, hts⟩ := exists_inner_ofParts l.parts
  exact ⟨Token.ofText l.lead ++ ts, (inner_ofText _).append hts, by rw [ht, Layout.tokens, e, List.append_assoc]⟩

end Extraction

/-- **The records of an accepted template are made from the values of the passes over its segments.** -/
theorem extract_eq_passes {source : Text} {t : Template} (h : Template.parse source = .ok t) (hs : t.segments ≠ [])
    (reg : Registry) (content : Text) :
    extract t reg content = (Segment.passes t.segments content).map (Placeholder.record reg t.placeholders) := by
  obtain ⟨ts, hts, ht⟩ := Extraction.exists_inner_of_parse h
  rw [extract, if_neg (mt (Template.isEmpty_iff_of_parse h).1 hs), Template.placeholders_eq_segments h]
  exact Extraction.run_begin hts ht hs content

theorem extract_eq_nil {source : Text} {t : Template} (h : Template.parse source = .ok t) (hs : t.segments = [])
    (reg : Registry) (content : Text) : extract t reg content = [] := by
  rw [extract, if_pos ((Template.isEmpty_iff_of_parse h).2 hs)]

/-- **Accepted templates whose segments have the same shapes find the same values**, one for each placeholder, and each
of them makes its own records from these. -/
theorem extract_of_shapes_eq {source₁ source₂ : Text} {t₁ t₂ : Template} (h₁ : Template.parse source₁ = .ok t₁)
    (h₂ : Template.parse source₂ = .ok t₂) (h : t₁.segments.map Segment.shape = t₂.segments.map Segment.shape)
    (reg₁ reg₂ : Registry) (content : Text) :
    ∃ rows : List (List Text),
      (∀ row ∈ rows, row.length = t₁.placeholders.length ∧ row.length = t₂.placeholders.length) ∧
      extract t₁ reg₁ content = rows.map (Placeholder.record reg₁ t₁.placeholders) ∧
      extract t₂ reg₂ content = rows.map (Placeholder.record reg₂ t₂.placeholders) := by
  by_cases hs₁ : t₁.segments = []
  · have hs₂ : t₂.segments = [] := by rwa [hs₁, List.map_nil, eq_comm, List.map_eq_nil_iff] at h
    exact ⟨[], nofun, extract_eq_nil h₁ hs₁ reg₁ content, extract_eq_nil h₂ hs₂ reg₂ content⟩
  · have hs₂ : t₂.segments ≠ [] := fun e => hs₁ (by rwa [e, List.map_nil, List.map_eq_nil_iff] at h)
    have hpasses := Segment.passes_congr hs₁ h content
    refine ⟨Segment.passes t₁.segments content, fun row hrow => ⟨?_, ?_⟩, extract_eq_passes h₁ hs₁ reg₁ content, ?_⟩
    · rw [Segment.length_of_mem_passes hrow, Template.placeholders_eq_segments h₁]
    · rw [hpasses] at hrow
      rw [Segment.length_of_mem_passes hrow, Template.placeholders_eq_segments h₂]
    · rw [hpasses, extract_eq_passes h₂ hs₂]

end PageHarvest
