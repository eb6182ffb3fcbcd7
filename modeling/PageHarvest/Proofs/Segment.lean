import PageHarvest.Template.Basic
import PageHarvest.Proofs.Scanning
import PageHarvest.Proofs.Ink

/-!
# The segments of a template

What a template finds in a page is told by its segments: its literal texts, each with the placeholder in front of it. In
an accepted template every placeholder is closed by a literal text with ink (`exists_layout_of_parse`), so the segments
of its layout are all there is to it (`Template.segments_of_layout`, `Template.placeholders_of_layout`).
-/

namespace PageHarvest

open Text (isBlankText ink)

/-- A literal text of a template and the placeholder in front of it, if there is one. -/
structure Segment where
  placeholder : Option Placeholder
  literal : Text
  deriving DecidableEq, Repr

namespace Template

/-- The segments of tokens behind a placeholder that no text closes yet, or behind none. -/
def segmentsFrom (opened : Option Placeholder) : List Token → List Segment
  | [] => []
  | t :: ts =>
    match t.kind with
    | .text => ⟨opened, t.literal⟩ :: segmentsFrom none ts
    | .variableName => segmentsFrom (some ⟨t.literal, leadingFilters ts⟩) ts
    | _ => segmentsFrom opened ts

/-- The literal texts of a template, each with the placeholder in front of it. -/
def segments (t : Template) : List Segment := segmentsFrom none t.tokens

/-- The placeholders that tokens name, each with its own filters. -/
def placeholdersOf : List Token → List Placeholder
  | [] => []
  | t :: ts =>
    match t.kind with
    | .variableName => ⟨t.literal, leadingFilters ts⟩ :: placeholdersOf ts
    | _ => placeholdersOf ts

/-- The placeholders of a template, in order. -/
def placeholders (t : Template) : List Placeholder := placeholdersOf t.tokens

/-! ## Accepted templates -/

theorem checkFrom_ofText (opened : Option Text) (x : Text) (ts : List Token) :
    checkFrom opened (Token.ofText x ++ ts) = checkFrom (if ink x = [] then opened else none) ts := by
  by_cases hx : x = []
  · simp [hx]
  · simp only [Token.ofText_of_ne hx, List.singleton_append, checkFrom]
    by_cases hb : ink x = []
    · rw [if_pos hb, if_pos (Text.isBlankText_iff.2 hb)]
    · rw [if_neg hb, if_neg (mt Text.isBlankText_iff.1 hb)]

theorem checkFrom_ofFilters (opened : Option Text) (fs : List Text) (ts : List Token) :
    checkFrom opened (Token.ofFilters fs ++ ts) = checkFrom opened ts := by
  induction fs with
  | nil => rfl
  | cons f fs ih => simpa [checkFrom] using ih

/-- Placeholders pass the check if each of them is closed by a text with ink. -/
theorem checkFrom_ofParts_iff {opened : Option Text} {ps : List (Placeholder × Text)} :
    checkFrom opened (Token.ofParts ps) = .ok () ↔ opened = none ∧ ∀ p ∈ ps, ink p.2 ≠ [] := by
  induction ps generalizing opened with
  | nil => cases opened <;> simp [Token.ofParts, Token.final, checkFrom]
  | cons p ps ih =>
    obtain ⟨p, x⟩ := p
    cases opened with
    | some n => simp [Token.ofParts, checkFrom]
    | none =>
      have hp : checkFrom none (Token.ofParts ((p, x) :: ps)) =
          checkFrom (if ink x = [] then some p.name else none) (Token.ofParts ps) := by
        simp [Token.ofParts, checkFrom, checkFrom_ofFilters, checkFrom_ofText]
      rw [hp, ih]
      by_cases hx : ink x = [] <;> simp [hx]

/-- What is accepted has tokens that pass the check. -/
theorem tokenize_of_parse {source : Text} {t : Template} (h : parse source = .ok t) :
    tokenize source = .ok t.tokens ∧ checkPlaceholders t.tokens = .ok () := by
  unfold parse at h
  split at h
  · cases h
  · rename_i ts hts
    split at h
    · cases h
    · rename_i hc
      cases h
      exact ⟨hts, hc⟩

/-- The tokens of an accepted template cover its source. -/
theorem print_of_parse {source : Text} {t : Template} (h : parse source = .ok t) : Token.print t.tokens = source :=
  (tokenize_eq_ok_iff.1 (tokenize_of_parse h).1).1

/-- **An accepted template has a layout in which every placeholder is closed by a text with ink.** -/
theorem exists_layout_of_parse {source : Text} {t : Template} (h : parse source = .ok t) :
    ∃ l : Layout, t.tokens = l.tokens ∧ ∀ p ∈ l.parts, ink p.2 ≠ [] := by
  obtain ⟨hts, hc⟩ := tokenize_of_parse h
  obtain ⟨l, hl⟩ := (tokenize_eq_ok_iff.1 hts).2.layout
  rw [hl, checkPlaceholders, Layout.tokens, checkFrom_ofText, ite_self] at hc
  exact ⟨l, hl, (checkFrom_ofParts_iff.1 hc).2⟩

/-! ## The segments of a layout -/

theorem leadingFilters_ofFilters (fs : List Text) (ts : List Token) :
    leadingFilters (Token.ofFilters fs ++ ⟨.rightDelimiter, Token.closing⟩ :: ts) = fs := by
  induction fs with
  | nil => rfl
  | cons f fs ih => simpa [leadingFilters, literals] using ih

theorem segmentsFrom_ofText {x : Text} (hx : x ≠ []) (opened : Option Placeholder) (ts : List Token) :
    segmentsFrom opened (Token.ofText x ++ ts) = ⟨opened, x⟩ :: segmentsFrom none ts := by
  rw [Token.ofText_of_ne hx]
  rfl

theorem segmentsFrom_ofFilters (opened : Option Placeholder) (fs : List Text) (ts : List Token) :
    segmentsFrom opened (Token.ofFilters fs ++ ts) = segmentsFrom opened ts := by
  induction fs with
  | nil => rfl
  | cons f fs ih => exact ih

theorem placeholdersOf_ofText (x : Text) (ts : List Token) :
    placeholdersOf (Token.ofText x ++ ts) = placeholdersOf ts := by
  by_cases hx : x = []
  · rw [hx]; rfl
  · rw [Token.ofText_of_ne hx]; rfl

theorem placeholdersOf_ofFilters (fs : List Text) (ts : List Token) :
    placeholdersOf (Token.ofFilters fs ++ ts) = placeholdersOf ts := by
  induction fs with
  | nil => rfl
  | cons f fs ih => exact ih

theorem segmentsFrom_ofParts {ps : List (Placeholder × Text)} (h : ∀ p ∈ ps, p.2 ≠ []) :
    segmentsFrom none (Token.ofParts ps) = ps.map fun p => ⟨some p.1, p.2⟩ := by
  induction ps with
  | nil => rfl
  | cons p ps ih =>
    have hp : segmentsFrom none (Token.ofParts (p :: ps)) =
        segmentsFrom (some p.1) (Token.ofText p.2 ++ Token.ofParts ps) := by
      simp [Token.ofParts, segmentsFrom, segmentsFrom_ofFilters, leadingFilters_ofFilters]
    rw [hp, segmentsFrom_ofText (h p List.mem_cons_self), ih fun q hq => h q (List.mem_cons_of_mem _ hq), List.map_cons]

theorem placeholdersOf_ofParts (ps : List (Placeholder × Text)) :
    placeholdersOf (Token.ofParts ps) = ps.map Prod.fst := by
  induction ps with
  | nil => rfl
  | cons p ps ih =>
    simp [Token.ofParts, placeholdersOf, placeholdersOf_ofFilters, placeholdersOf_ofText, leadingFilters_ofFilters, ih]

/-- The segments of a layout: its text in front of all placeholders, unless it is empty, and one for each placeholder. -/
theorem segments_of_layout {t : Template} {l : Layout} (ht : t.tokens = l.tokens) (hl : ∀ p ∈ l.parts, ink p.2 ≠ []) :
    t.segments = (if l.lead = [] then [] else [⟨none, l.lead⟩]) ++ l.parts.map fun p => ⟨some p.1, p.2⟩ := by
  have hne : ∀ p ∈ l.parts, p.2 ≠ [] := fun p hp => Text.ne_nil_of_ink (hl p hp)
  rw [segments, ht, Layout.tokens]
  by_cases h : l.lead = []
  · simp [h, segmentsFrom_ofParts hne]
  · simp [h, segmentsFrom_ofText, segmentsFrom_ofParts hne]

theorem placeholders_of_layout {t : Template} {l : Layout} (ht : t.tokens = l.tokens) :
    t.placeholders = l.parts.map Prod.fst := by
  rw [placeholders, ht, Layout.tokens, placeholdersOf_ofText, placeholdersOf_ofParts]

/-- The placeholders of an accepted template are those of its segments. -/
theorem placeholders_eq_segments {source : Text} {t : Template} (h : parse source = .ok t) :
    t.placeholders = t.segments.filterMap Segment.placeholder := by
  obtain ⟨l, ht, hl⟩ := exists_layout_of_parse h
  rw [placeholders_of_layout ht, segments_of_layout ht hl]
  by_cases hx : l.lead = [] <;> simp [hx, List.filterMap_map]

theorem segmentsFrom_ne_nil {opened : Option Placeholder} {ts : List Token} (h : ∃ x ∈ ts, x.kind = .text) :
    segmentsFrom opened ts ≠ [] := by
  induction ts generalizing opened with
  | nil =>
    obtain ⟨x, hx, -⟩ := h
    cases hx
  | cons t ts ih =>
    obtain ⟨x, hx, hk⟩ := h
    rw [segmentsFrom]
    rcases List.mem_cons.1 hx with rfl | hx
    · simp [hk]
    · have hs {o : Option Placeholder} : segmentsFrom o ts ≠ [] := ih ⟨x, hx, hk⟩
      split
      · exact List.cons_ne_nil _ _
      · exact hs
      · exact hs

/-- A template with literal text has segments. -/
theorem segments_ne_nil {t : Template} (h : ∃ x ∈ t.tokens, x.kind = .text) : t.segments ≠ [] := segmentsFrom_ne_nil h

/-- An accepted template without segments is empty. -/
theorem isEmpty_iff_of_parse {source : Text} {t : Template} (h : parse source = .ok t) :
    t.isEmpty = true ↔ t.segments = [] := by
  obtain ⟨l, ht, hl⟩ := exists_layout_of_parse h
  rw [segments_of_layout ht hl, isEmpty, ht, Layout.tokens]
  by_cases hx : l.lead = []
  · cases l.parts with
    | nil => simp [hx, Token.ofParts]
    | cons p ps => simp [hx, Token.ofParts]
  · cases l.parts with
    | nil => simp [hx, Token.ofText, Token.ofParts]
    | cons p ps => simp [hx, Token.ofText, Token.ofParts]

end Template

end PageHarvest
