import PageHarvest.Proofs.ExtractionStep
import PageHarvest.Proofs.Spacing

/-!
# Bounds on the extraction

An extraction ends, and there is a limit to what it can find. No step of the machine goes without lessening
`State.load`, a number that is known from the content and the template alone. And the literals of each record cover ink
that no other record has covered, so the content must hold the ink of the template once for every record.

- `exists_ends_run`: the machine comes to its end within its load.
- `Segment.ink_sublist_passes`: the ink of all passes is found in the ink of the content, in order.
- `Template.inkless_iff`: a template without ink is empty or a single blank text.
- `extract_bounds`: the extraction ends, and the number of records is bounded by the content.
-/

namespace PageHarvest

open Text (ink)

/-! ## The machine comes to its end -/

namespace Extraction

variable {t : Template} {reg : Registry} {s s' : State}

/-- The machine comes to its end from a state: after so many steps, and it has emitted these records. -/
inductive Ends (t : Template) (reg : Registry) : State → Nat → List Record → Prop
  | stop {s : State} : step t reg s = .stop → Ends t reg s 1 []
  | last {s : State} {r : Record} : step t reg s = .emit r none → Ends t reg s 1 [r]
  | go {s s' : State} {k : Nat} {rs : List Record} : step t reg s = .go s' → Ends t reg s' k rs →
      Ends t reg s (k + 1) rs
  | emit {s s' : State} {k : Nat} {r : Record} {rs : List Record} : step t reg s = .emit r (some s') →
      Ends t reg s' k rs → Ends t reg s (k + 1) (r :: rs)

/-- A bound on the steps that follow a state, if no more than `width` tokens are ever ahead. For every character there
may be two passes through the tokens: one that has moved the cursor, and one that has not. -/
def State.load (width : Nat) (s : State) : Nat := (width + 1) * (2 * s.rest.length + moved s) + s.ahead.length

theorem moved_le_one (s : State) : moved s ≤ 1 := by
  unfold moved
  split <;> omega

/-- No step puts more tokens ahead than the template has. -/
theorem Step.ahead_le (h : Step t reg s s') (hs : s.ahead.length ≤ t.tokens.length) :
    s'.ahead.length ≤ t.tokens.length := by
  cases h with
  | found ha | opened ha | passed ha =>
    rw [ha, List.length_cons] at hs
    exact Nat.le_of_succ_le hs
  | slid => exact hs
  | finished => exact Nat.le_refl _

/-- One more character, or a first move, outweighs all tokens that may come to stand ahead. -/
theorem load_lt_of_lt {width : Nat} (hs : s'.ahead.length ≤ width)
    (h : 2 * s'.rest.length + moved s' < 2 * s.rest.length + moved s) : s'.load width < s.load width := by
  calc (width + 1) * (2 * s'.rest.length + moved s') + s'.ahead.length
      < (width + 1) * (2 * s'.rest.length + moved s') + (width + 1) := by omega
    _ = (width + 1) * (2 * s'.rest.length + moved s' + 1) := rfl
    _ ≤ (width + 1) * (2 * s.rest.length + moved s) := Nat.mul_le_mul_left _ h
    _ ≤ s.load width := Nat.le_add_right _ _

/-- What is lighter has a smaller load. -/
theorem load_lt_of_lighter {width : Nat} (hs : s'.ahead.length ≤ width) (h : Lighter s' s) :
    s'.load width < s.load width := by
  have hmoved := moved_le_one s'
  rcases Prod.lex_def.1 h with hrest | ⟨hrest, h⟩
  · change s'.rest.length < s.rest.length at hrest
    exact load_lt_of_lt hs (by omega)
  change s'.rest.length = s.rest.length at hrest
  rcases Prod.lex_def.1 h with hm | ⟨hm, ha⟩
  · change moved s' < moved s at hm
    exact load_lt_of_lt hs (by omega)
  · change moved s' = moved s at hm
    change s'.ahead.length < s.ahead.length at ha
    rw [State.load, State.load, hrest, hm]
    omega

theorem load_lt_of_step (hs : s.ahead.length ≤ t.tokens.length) (h : (step t reg s).next? = some s') :
    s'.ahead.length ≤ t.tokens.length ∧ s'.load t.tokens.length < s.load t.tokens.length := by
  have ha : s'.ahead.length ≤ t.tokens.length := (Step.of_next? h).ahead_le hs
  exact ⟨ha, load_lt_of_lighter ha (lighter_of_step h)⟩

/-- **The machine comes to its end**, with the records of `run`, and takes no more steps than its load and one. -/
theorem exists_ends_run (t : Template) (reg : Registry) (s : State) (hs : s.ahead.length ≤ t.tokens.length) :
    ∃ k ≤ s.load t.tokens.length + 1, Ends t reg s k (run t reg s) := by
  fun_induction run t reg s with
  | case1 s s' h ih =>
    have hnext : (step t reg s).next? = some s' := by rw [h]; rfl
    obtain ⟨ha, hlt⟩ := load_lt_of_step hs hnext
    obtain ⟨k, hk, hends⟩ := ih ha
    exact ⟨k + 1, by omega, .go h hends⟩
  | case2 s r h => exact ⟨1, by omega, .last h⟩
  | case3 s r s' h ih =>
    have hnext : (step t reg s).next? = some s' := by rw [h]; rfl
    obtain ⟨ha, hlt⟩ := load_lt_of_step hs hnext
    obtain ⟨k, hk, hends⟩ := ih ha
    exact ⟨k + 1, by omega, .emit h hends⟩
  | case4 s h => exact ⟨1, by omega, .stop h⟩

end Extraction

/-! ## The literals of a record cover ink of their own -/

/-- The ink of a content is that of the gap, of the literal that is found behind it, and of the rest. -/
theorem Literal.ink_of_find? {literal content gap rest : Text} (h : find? literal content = some (gap, rest)) :
    ink content = ink gap ++ (ink literal ++ ink rest) := by
  obtain ⟨m, rfl, -, hm, -⟩ := find?_eq_some_iff.1 h
  obtain ⟨front, rfl, hfront⟩ := exists_front_of_after? hm
  rw [Text.ink_append, Text.ink_append, hfront]

namespace Segment

/-- The ink of all literals, one behind the other. -/
def inks (ss : List Segment) : Text := ss.flatMap fun s => ink s.literal

theorem inks_eq_nil_iff {ss : List Segment} : inks ss = [] ↔ ∀ s ∈ ss, ink s.literal = [] := List.flatMap_eq_nil_iff

/-- What a pass covers and what it leaves is found in the content. -/
theorem ink_sublist_of_pass? {ss : List Segment} {content rest : Text} {values : List Text}
    (h : pass? ss content = some (values, rest)) : (inks ss ++ ink rest).Sublist (ink content) := by
  induction ss generalizing content values with
  | nil =>
    cases h
    exact List.Sublist.refl _
  | cons s ss ih =>
    obtain ⟨gap, behind, vs, hf, hp, -⟩ := pass?_cons_eq_some_iff.1 h
    have hcons : inks (s :: ss) ++ ink rest = ink s.literal ++ (inks ss ++ ink rest) := by
      rw [inks, List.flatMap_cons, List.append_assoc, ← inks]
    rw [hcons, Literal.ink_of_find? hf]
    exact ((ih hp).append_left _).trans (List.sublist_append_right _ _)

theorem ink_resume_sublist (content rest : Text) : (ink (resume content rest)).Sublist (ink rest) := by
  unfold resume
  split
  · exact (List.drop_sublist 1 rest).filter _
  · exact List.Sublist.refl _

/-- **The ink of all passes is found in the ink of the content**, one pass behind the other. -/
theorem ink_sublist_passes (ss : List Segment) (content : Text) :
    (List.replicate (passes ss content).length (inks ss)).flatten.Sublist (ink content) := by
  fun_induction passes ss content with
  | case1 content h => exact List.nil_sublist _
  | case2 content values rest h he =>
    have hpass : (inks ss).Sublist (ink content) := (List.sublist_append_left _ _).trans (ink_sublist_of_pass? h)
    simpa using hpass
  | case3 content values rest h hne ih =>
    rw [List.length_cons, List.replicate_succ, List.flatten_cons]
    have hbehind := ih.trans (ink_resume_sublist content rest)
    exact (hbehind.append_left _).trans (ink_sublist_of_pass? h)

/-- Each pass but the last one moves on by a character at least. -/
theorem length_passes_le {ss : List Segment} (hs : ss ≠ []) (content : Text) :
    (passes ss content).length ≤ content.length := by
  fun_induction passes ss content with
  | case1 content h => exact Nat.zero_le _
  | case2 content values rest h he =>
    have hne : content ≠ [] := by
      rintro rfl
      rw [pass?_nil_right hs] at h
      cases h
    exact List.length_pos_iff.2 hne
  | case3 content values rest h hne ih =>
    have hlt := length_resume_lt h hne
    rw [List.length_cons]
    omega

end Segment

namespace Template

/-- The number of characters in the literal texts of a template that are ink. -/
def inkCount (t : Template) : Nat := (ink (literals .text t.tokens).flatten).length

/-- The literal texts among tokens are those of their segments. -/
theorem literals_text (opened : Option Placeholder) (ts : List Token) :
    literals .text ts = (segmentsFrom opened ts).map Segment.literal := by
  induction ts generalizing opened with
  | nil => rfl
  | cons x ts ih =>
    rw [segmentsFrom]
    cases hk : x.kind with
    | text => simpa [literals, hk] using ih none
    | variableName => simpa [literals, hk] using ih (some ⟨x.literal, leadingFilters ts⟩)
    | _ => simpa [literals, hk] using ih opened

theorem inkCount_eq (t : Template) : t.inkCount = (Segment.inks t.segments).length := by
  have hflat : ∀ ss : List Segment, ink (ss.map Segment.literal).flatten = Segment.inks ss := by
    intro ss
    induction ss with
    | nil => rfl
    | cons s ss ih => rw [List.map_cons, List.flatten_cons, Text.ink_append, ih]; rfl
  rw [inkCount, literals_text none, ← segments, hflat]

/-- **A template without ink is empty or a single blank text.** -/
theorem inkless_iff {source : Text} {t : Template} (h : parse source = .ok t) :
    t.inkCount = 0 ↔ t.tokens = [Token.final] ∨ ∃ x, ink x = [] ∧ t.tokens = [⟨.text, x⟩, Token.final] := by
  constructor
  · intro h0
    obtain ⟨l, ht, hl⟩ := exists_layout_of_parse h
    rw [inkCount_eq, List.length_eq_zero_iff, Segment.inks_eq_nil_iff, segments_of_layout ht hl] at h0
    have hparts : l.parts = [] := by
      by_contra hne
      obtain ⟨p, hp⟩ := List.exists_mem_of_ne_nil _ hne
      exact hl p hp (h0 ⟨some p.1, p.2⟩ (List.mem_append_right _ (List.mem_map.2 ⟨p, hp, rfl⟩)))
    rw [ht, Layout.tokens, hparts]
    by_cases hx : l.lead = []
    · rw [hx]
      exact .inl rfl
    · rw [if_neg hx] at h0
      rw [Token.ofText_of_ne hx]
      exact .inr ⟨l.lead, h0 _ (List.mem_append_left _ List.mem_cons_self), rfl⟩
  · rintro (ht | ⟨x, hx, ht⟩)
    · simp [inkCount, ht, literals, Token.final]
    · simp [inkCount, ht, literals, Token.final, hx]

end Template

/-! ## Accepted templates -/

/-- A template that is not empty is run by the machine, which comes to its end. -/
theorem exists_ends_extract (t : Template) (ht : t.isEmpty = false) (reg : Registry) (content : Text) :
    ∃ k ≤ (t.tokens.length + 1) * (2 * content.length + 1),
      Extraction.Ends t reg (Extraction.begin t content) k (extract t reg content) := by
  obtain ⟨k, hk, hends⟩ := Extraction.exists_ends_run t reg (Extraction.begin t content) (Nat.le_refl _)
  have hload : (Extraction.begin t content).load t.tokens.length + 1 =
      (t.tokens.length + 1) * (2 * content.length + 1) := by
    simp [Extraction.State.load, Extraction.begin, Extraction.moved, Nat.mul_succ, Nat.add_assoc]
  rw [extract, ht]
  exact ⟨k, hload ▸ hk, hends⟩

/-- The content has the ink of the template once for every record. -/
theorem length_extract_mul_inkCount_le {source : Text} {t : Template} (h : Template.parse source = .ok t)
    (reg : Registry) (content : Text) : (extract t reg content).length * t.inkCount ≤ (ink content).length := by
  by_cases hs : t.segments = []
  · simp [extract_eq_nil h hs]
  · rw [extract_eq_passes h hs, List.length_map, Template.inkCount_eq]
    simpa using (Segment.ink_sublist_passes t.segments content).length_le

/-- There are no more records than characters. -/
theorem length_extract_le {source : Text} {t : Template} (h : Template.parse source = .ok t) (reg : Registry)
    (content : Text) : (extract t reg content).length ≤ content.length := by
  by_cases hs : t.segments = []
  · simp [extract_eq_nil h hs]
  · rw [extract_eq_passes h hs, List.length_map]
    exact Segment.length_passes_le hs content

/-- **Extraction ends, and what it finds is bounded by the content.** The machine of a template that is not empty comes
to its end within a number of steps known beforehand. The content has the ink of the template once for every record. A
template without ink is empty or a single blank text, and then too there are no more records than characters. -/
theorem extract_bounds {source : Text} {t : Template} (h : Template.parse source = .ok t) (reg : Registry)
    (content : Text) :
    (t.isEmpty = false → ∃ k ≤ (t.tokens.length + 1) * (2 * content.length + 1),
      Extraction.Ends t reg (Extraction.begin t content) k (extract t reg content)) ∧
    (extract t reg content).length * t.inkCount ≤ (ink content).length ∧
    (t.inkCount = 0 ↔ t.tokens = [Token.final] ∨ ∃ x, ink x = [] ∧ t.tokens = [⟨.text, x⟩, Token.final]) ∧
    (extract t reg content).length ≤ content.length :=
  ⟨fun he => exists_ends_extract t he reg content, length_extract_mul_inkCount_le h reg content,
    Template.inkless_iff h, length_extract_le h reg content⟩

/-- A blank text covers nothing in front of a letter, and there the machine moves on by one character: as many records
as characters. -/
theorem extract_bounds_blank :
    ∃ t, Template.parse [' '] = .ok t ∧ t.inkCount = 0 ∧
      (extract t Registry.standard "a b".toList).length = 3 ∧
      (∃ k ≤ 21, Extraction.Ends t Registry.standard (Extraction.begin t "a b".toList) k
        (extract t Registry.standard "a b".toList)) ∧
      3 * t.inkCount ≤ (ink "a b".toList).length ∧ 3 ≤ "a b".toList.length := by
  have hp : Template.parse [' '] = .ok ⟨[⟨.text, [' ']⟩, Token.final]⟩ := by decide +kernel
  have hlen : (extract ⟨[⟨.text, [' ']⟩, Token.final]⟩ Registry.standard "a b".toList).length = 3 := by
    rw [extract_eq_passes hp (by decide)]
    decide +kernel
  obtain ⟨hends, hink, hblank, hle⟩ := extract_bounds hp Registry.standard "a b".toList
  rw [hlen] at hink hle
  exact ⟨_, hp, hblank.2 (.inr ⟨[' '], rfl, rfl⟩), hlen, hends rfl, hink, hle⟩

end PageHarvest
