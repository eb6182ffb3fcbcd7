import PageHarvest.Extraction.Basic
import PageHarvest.Proofs.Segment

/-!
# Searching a content

The extraction as a search, without a machine: `Literal.find?` looks for one literal, `Segment.pass?` for the literals of
all segments one behind the other, and `Segment.passes` repeats this to the end of the content. A search gives what lies
in front of the literal and what is left behind it.

- `find?_eq_some_iff`, `find?_eq_none_iff`: the match that is found is the first one.
- `passes_of_pass?`, `passes_of_pass?_eq_none`: one pass, and the passes behind it.
- `passes_map`, `passes_congr`: what holds of one pass holds of all; the passes read nothing of the segments but their
  shapes.
- `extract_eq_passes` (in `Simulation`): the records of a template are made from the values of the passes.
-/

namespace PageHarvest

open Text (ink)

/-! ## One literal -/

namespace Literal

/-- What lies in front of the first match of a literal in a content, and what is left behind the match. -/
def find? (literal : Text) : Text → Option (Text × Text)
  | [] => none
  | c :: content =>
    match after? literal (c :: content) with
    | some rest => some ([], rest)
    | none => (find? literal content).map fun (gap, rest) => (c :: gap, rest)

@[simp] theorem find?_nil (literal : Text) : find? literal [] = none := rfl

theorem find?_of_after? {literal content rest : Text} (hc : content ≠ []) (h : after? literal content = some rest) :
    find? literal content = some ([], rest) := by
  cases content with
  | nil => exact absurd rfl hc
  | cons c content => rw [find?, h]

theorem find?_of_after?_eq_none {literal content : Text} {c : Char} (h : after? literal (c :: content) = none) :
    find? literal (c :: content) = (find? literal content).map fun (gap, rest) => (c :: gap, rest) := by
  rw [find?, h]

/-- The match that is found is the first one. -/
theorem find?_eq_some_iff {literal content gap rest : Text} : find? literal content = some (gap, rest) ↔
    ∃ m, content = gap ++ m ∧ m ≠ [] ∧ after? literal m = some rest ∧
      ∀ g, g <:+ gap → g ≠ [] → after? literal (g ++ m) = none := by
  induction content generalizing gap with
  | nil => simp
  | cons c content ih =>
    cases ha : after? literal (c :: content) with
    | some rest' =>
      rw [find?_of_after? (List.cons_ne_nil _ _) ha]
      constructor
      · intro h
        cases h
        exact ⟨c :: content, rfl, List.cons_ne_nil _ _, ha, fun g hg hne => absurd (List.suffix_nil.1 hg) hne⟩
      · rintro ⟨m, hm, hne, hr, hf⟩
        cases gap with
        | nil =>
          rw [List.nil_append] at hm
          rw [← hm, ha] at hr
          rw [Option.some.inj hr]
        | cons g gap =>
          have := hf _ (List.suffix_refl _) (List.cons_ne_nil _ _)
          rw [← hm, ha] at this
          cases this
    | none =>
      rw [find?_of_after?_eq_none ha]
      constructor
      · intro h
        obtain ⟨⟨gap', rest'⟩, h', e⟩ := Option.map_eq_some_iff.1 h
        cases e
        obtain ⟨m, rfl, hne, hr, hf⟩ := ih.1 h'
        refine ⟨m, rfl, hne, hr, fun g hg hg' => ?_⟩
        rcases List.suffix_cons_iff.1 hg with rfl | hg
        · exact ha
        · exact hf g hg hg'
      · rintro ⟨m, hm, hne, hr, hf⟩
        cases gap with
        | nil =>
          rw [List.nil_append] at hm
          rw [← hm, ha] at hr
          cases hr
        | cons g gap =>
          obtain ⟨rfl, rfl⟩ := List.cons.inj hm
          refine Option.map_eq_some_iff.2 ⟨(gap, rest), ih.2 ⟨m, rfl, hne, hr, fun g hg => ?_⟩, rfl⟩
          exact hf g (hg.trans (List.suffix_cons _ _))

theorem find?_eq_none_iff {literal content : Text} :
    find? literal content = none ↔ ∀ m, m <:+ content → m ≠ [] → after? literal m = none := by
  induction content with
  | nil => simp
  | cons c content ih =>
    cases ha : after? literal (c :: content) with
    | some rest =>
      rw [find?_of_after? (List.cons_ne_nil _ _) ha]
      refine iff_of_false nofun fun h => ?_
      have := h _ (List.suffix_refl _) (List.cons_ne_nil _ _)
      rw [ha] at this
      cases this
    | none =>
      rw [find?_of_after?_eq_none ha, Option.map_eq_none_iff, ih]
      constructor
      · intro h m hm hne
        rcases List.suffix_cons_iff.1 hm with rfl | hm
        · exact ha
        · exact h m hm hne
      · exact fun h m hm => h m (hm.trans (List.suffix_cons _ _))

/-- Literals that match alike are found alike. -/
theorem find?_congr {literal literal' : Text} (h : after? literal = after? literal') {content : Text} :
    find? literal content = find? literal' content := by
  induction content with
  | nil => rfl
  | cons c content ih => rw [find?, find?, h, ih]

theorem suffix_of_find? {literal content gap rest : Text} (h : find? literal content = some (gap, rest)) :
    rest <:+ content := by
  obtain ⟨m, rfl, -, hr, -⟩ := find?_eq_some_iff.1 h
  exact (after?_suffix hr).trans (List.suffix_append _ _)

end Literal

/-! ## One pass -/

namespace Segment

/-- The raw value of a segment's placeholder, if there is one, is what lies in front of the literal. -/
def value (s : Segment) (gap : Text) : List Text := if s.placeholder.isSome then [gap] else []

/-- The raw values that one pass over segments finds, and what is left behind the last literal. -/
def pass? : List Segment → Text → Option (List Text × Text)
  | [], content => some ([], content)
  | s :: ss, content =>
    match Literal.find? s.literal content with
    | none => none
    | some (gap, rest) => (pass? ss rest).map fun (values, rest) => (s.value gap ++ values, rest)

theorem pass?_cons {s : Segment} {ss : List Segment} {content gap rest : Text}
    (h : Literal.find? s.literal content = some (gap, rest)) :
    pass? (s :: ss) content = (pass? ss rest).map fun (values, rest) => (s.value gap ++ values, rest) := by
  rw [pass?, h]

/-- A pass finds the first literal, and behind it the others. -/
theorem pass?_cons_eq_some_iff {s : Segment} {ss : List Segment} {content rest : Text} {values : List Text} :
    pass? (s :: ss) content = some (values, rest) ↔ ∃ gap behind vs,
      Literal.find? s.literal content = some (gap, behind) ∧ pass? ss behind = some (vs, rest) ∧
        s.value gap ++ vs = values := by
  cases hf : Literal.find? s.literal content with
  | none => simp [pass?, hf]
  | some found =>
    obtain ⟨gap, behind⟩ := found
    rw [pass?_cons hf]
    constructor
    · intro h
      obtain ⟨⟨vs, r⟩, hp, e⟩ := Option.map_eq_some_iff.1 h
      cases e
      exact ⟨gap, behind, vs, rfl, hp, rfl⟩
    · rintro ⟨_, _, vs, h, hp, rfl⟩
      cases h
      rw [hp]
      rfl

/-- A pass over segments goes on with the segments behind them. -/
theorem pass?_segments_append_iff {ss us : List Segment} {content rest : Text} {values : List Text} :
    pass? (ss ++ us) content = some (values, rest) ↔ ∃ vs between ws,
      pass? ss content = some (vs, between) ∧ pass? us between = some (ws, rest) ∧ vs ++ ws = values := by
  induction ss generalizing content values with
  | nil =>
    constructor
    · intro h
      exact ⟨[], content, values, rfl, h, rfl⟩
    · rintro ⟨vs, between, ws, ⟨⟩, h, rfl⟩
      exact h
  | cons s ss ih =>
    rw [List.cons_append, pass?_cons_eq_some_iff]
    constructor
    · rintro ⟨gap, behind, vs, hf, hp, rfl⟩
      obtain ⟨vs, between, ws, hs, hu, rfl⟩ := ih.1 hp
      exact ⟨_, between, ws, pass?_cons_eq_some_iff.2 ⟨gap, behind, vs, hf, hs, rfl⟩, hu, List.append_assoc _ _ _⟩
    · rintro ⟨vs, between, ws, hs, hu, rfl⟩
      obtain ⟨gap, behind, vs, hf, hp, rfl⟩ := pass?_cons_eq_some_iff.1 hs
      exact ⟨gap, behind, vs ++ ws, hf, ih.2 ⟨vs, between, ws, hp, hu, rfl⟩, (List.append_assoc _ _ _).symm⟩

theorem suffix_of_pass? {ss : List Segment} {content rest : Text} {values : List Text}
    (h : pass? ss content = some (values, rest)) : rest <:+ content := by
  induction ss generalizing content values with
  | nil =>
    cases h
    exact List.suffix_refl _
  | cons s ss ih =>
    obtain ⟨gap, behind, vs, hf, hp, -⟩ := pass?_cons_eq_some_iff.1 h
    exact (ih hp).trans (Literal.suffix_of_find? hf)

/-- A pass finds one value for each placeholder. -/
theorem length_of_pass? {ss : List Segment} {content rest : Text} {values : List Text}
    (h : pass? ss content = some (values, rest)) : values.length = (ss.filterMap placeholder).length := by
  induction ss generalizing content values with
  | nil =>
    cases h
    rfl
  | cons s ss ih =>
    obtain ⟨gap, behind, vs, hf, hp, rfl⟩ := pass?_cons_eq_some_iff.1 h
    have hlen := ih hp
    cases hs : s.placeholder <;> simp [value, hs, hlen]

@[simp] theorem pass?_nil_right {ss : List Segment} (h : ss ≠ []) : pass? ss [] = none := by
  cases ss with
  | nil => exact absurd rfl h
  | cons s ss => rfl

/-! ## All passes -/

/-- Where the search goes on behind a pass over `content` that leaves `rest`: there, or one character on if the pass has
covered nothing. -/
def resume (content rest : Text) : Text := if rest.length = content.length then rest.drop 1 else rest

theorem length_resume_lt {ss : List Segment} {content rest : Text} {values : List Text}
    (h : pass? ss content = some (values, rest)) (hne : resume content rest ≠ []) :
    (resume content rest).length < content.length := by
  have hle := (suffix_of_pass? h).length_le
  unfold resume at *
  split
  · rename_i he
    rw [if_pos he] at hne
    have hr : rest ≠ [] := fun e => hne (by simp [e])
    have := List.length_pos_iff.2 hr
    rw [List.length_drop]
    omega
  · omega

/-- The raw values of all passes over segments, one list for each pass. -/
def passes (ss : List Segment) (content : Text) : List (List Text) :=
  match _h : pass? ss content with
  | none => []
  | some (values, rest) =>
    if _hne : resume content rest = [] then [values] else values :: passes ss (resume content rest)
termination_by content.length
decreasing_by exact length_resume_lt _h _hne

theorem passes_of_pass?_eq_none {ss : List Segment} {content : Text} (h : pass? ss content = none) :
    passes ss content = [] := by
  rw [passes]
  split
  · rfl
  · rename_i h'
    cases h.symm.trans h'

theorem passes_of_pass? {ss : List Segment} (hs : ss ≠ []) {content rest : Text} {values : List Text}
    (h : pass? ss content = some (values, rest)) : passes ss content = values :: passes ss (resume content rest) := by
  rw [passes]
  split
  · rename_i h'
    cases h.symm.trans h'
  · rename_i h'
    cases h.symm.trans h'
    split
    · rename_i he
      rw [he, passes_of_pass?_eq_none (pass?_nil_right hs)]
    · rfl

/-- The values of all passes are those of single passes. -/
theorem exists_pass?_of_mem_passes {ss : List Segment} {content : Text} {values : List Text}
    (h : values ∈ passes ss content) : ∃ start rest, pass? ss start = some (values, rest) := by
  fun_induction passes ss content with
  | case1 content hp => cases h
  | case2 content vs rest hp he => exact ⟨content, rest, List.mem_singleton.1 h ▸ hp⟩
  | case3 content vs rest hp hne ih =>
    rcases List.mem_cons.1 h with rfl | h
    · exact ⟨content, rest, hp⟩
    · exact ih h

/-- Each pass finds one value for each placeholder. -/
theorem length_of_mem_passes {ss : List Segment} {content : Text} {values : List Text} (h : values ∈ passes ss content) :
    values.length = (ss.filterMap placeholder).length := by
  obtain ⟨start, rest, hp⟩ := exists_pass?_of_mem_passes h
  exact length_of_pass? hp

/-! ## Shapes -/

/-- What the search reads of a segment: whether there is a placeholder, and what the literal matches. -/
def shape (s : Segment) : Bool × (Text → Option Text) := (s.placeholder.isSome, Literal.after? s.literal)

theorem value_congr {s s' : Segment} (h : s.shape = s'.shape) (gap : Text) : s.value gap = s'.value gap := by
  have hp : s.placeholder.isSome = s'.placeholder.isSome := congrArg Prod.fst h
  rw [value, value, hp]

theorem pass?_congr {ss ss' : List Segment} (h : ss.map shape = ss'.map shape) (content : Text) :
    pass? ss content = pass? ss' content := by
  induction ss generalizing ss' content with
  | nil =>
    cases ss' with
    | nil => rfl
    | cons s' ss' => cases h
  | cons s ss ih =>
    cases ss' with
    | nil => cases h
    | cons s' ss' =>
      obtain ⟨hs, hss⟩ := List.cons.inj h
      have hl : Literal.after? s.literal = Literal.after? s'.literal := congrArg Prod.snd hs
      rw [pass?, pass?, Literal.find?_congr hl]
      cases Literal.find? s'.literal content with
      | none => rfl
      | some found =>
        obtain ⟨gap, rest⟩ := found
        simp only [ih hss rest, value_congr hs gap]

/-- Segments whose passes differ by what becomes of the values: all passes differ by that. -/
theorem passes_map {ss ss' : List Segment} (hs : ss ≠ []) (hs' : ss' ≠ []) {f : List Text → List Text}
    (h : ∀ content, pass? ss' content = (pass? ss content).map (Prod.map f id)) (content : Text) :
    passes ss' content = (passes ss content).map f := by
  cases hp : pass? ss content with
  | none =>
    have hp' : pass? ss' content = none := by rw [h, hp, Option.map_none]
    rw [passes_of_pass?_eq_none hp, passes_of_pass?_eq_none hp', List.map_nil]
  | some pass =>
    obtain ⟨values, rest⟩ := pass
    have hp' : pass? ss' content = some (f values, rest) := by rw [h, hp, Option.map_some, Prod.map_apply, id]
    rw [passes_of_pass? hs hp, passes_of_pass? hs' hp', List.map_cons]
    by_cases he : resume content rest = []
    · rw [he, passes_of_pass?_eq_none (pass?_nil_right hs), passes_of_pass?_eq_none (pass?_nil_right hs'), List.map_nil]
    · have := length_resume_lt hp he
      rw [passes_map hs hs' h (resume content rest)]
termination_by content.length

/-- Segments of the same shapes have the same passes. -/
theorem passes_congr {ss ss' : List Segment} (hs : ss ≠ []) (h : ss.map shape = ss'.map shape) (content : Text) :
    passes ss content = passes ss' content := by
  have hs' : ss' ≠ [] := by
    rintro rfl
    exact hs (List.map_eq_nil_iff.1 h)
  have hsame (content : Text) : pass? ss content = (pass? ss' content).map (Prod.map id id) := by
    rw [pass?_congr h content, Prod.map_id, Option.map_id_apply]
  rw [passes_map hs' hs hsame, List.map_id]

end Segment

end PageHarvest
