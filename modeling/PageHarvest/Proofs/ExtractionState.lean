import PageHarvest.Proofs.Boundary
import PageHarvest.Proofs.OwnFilters
import PageHarvest.Proofs.Spacing

/-!
# The states of an extraction

What holds in every state that an extraction comes to. Two invariants are kept by each step, and
neither needs an accepted template: the pass, the open value and the cursor stand in the content in this order
(`State.Placed`), and a value is open exactly if the next token stands behind a name and no text between them
(`State.Tracks`). What an accepted template adds is that a value is closed by the text behind its placeholder, which has
ink (`Template.closes_of_inValue`).

- `Step.placed`, `Step.tracks`: what a step keeps.
- `Literal.consumed?_pos`: a literal with ink covers something.
- `states_exact`: all of it together.
-/

namespace PageHarvest

open Text (ink isBlankText size)

namespace Template

/-! ## Tokens that stand in a value -/

/-- The token `k` stands behind the name of a placeholder, and no text between the two. -/
def InValue (ts : List Token) (k : Nat) : Prop :=
  ∃ i x, i < k ∧ ts[i]? = some x ∧ x.kind = .variableName ∧ ∀ m z, i < m → m < k → ts[m]? = some z → z.kind ≠ .text

variable {ts : List Token} {k : Nat} {x : Token}

theorem not_inValue_zero (ts : List Token) : ¬ InValue ts 0 := fun ⟨_, _, h, _⟩ => Nat.not_lt_zero _ h

theorem inValue_succ_of_name (hx : ts[k]? = some x) (hk : x.kind = .variableName) : InValue ts (k + 1) :=
  ⟨k, x, Nat.lt_succ_self k, hx, hk, by omega⟩

theorem not_inValue_succ_of_text (hx : ts[k]? = some x) (hk : x.kind = .text) : ¬ InValue ts (k + 1) := by
  rintro ⟨i, y, hi, hy, hyk, hno⟩
  rcases Nat.lt_succ_iff_lt_or_eq.1 hi with hi | rfl
  · exact hno k x hi (Nat.lt_succ_self k) hx hk
  · cases hx.symm.trans hy
    cases hk.symm.trans hyk

theorem inValue_succ_iff (hx : ts[k]? = some x) (hn : x.kind ≠ .variableName) (ht : x.kind ≠ .text) :
    InValue ts (k + 1) ↔ InValue ts k := by
  constructor
  · rintro ⟨i, y, hi, hy, hyk, hno⟩
    rcases Nat.lt_succ_iff_lt_or_eq.1 hi with hi | rfl
    · exact ⟨i, y, hi, hy, hyk, fun m z him hmk => hno m z him (Nat.lt_succ_of_lt hmk)⟩
    · cases hx.symm.trans hy
      exact absurd hyk hn
  · rintro ⟨i, y, hi, hy, hyk, hno⟩
    refine ⟨i, y, Nat.lt_succ_of_lt hi, hy, hyk, fun m z him hmk hz => ?_⟩
    rcases Nat.lt_succ_iff_lt_or_eq.1 hmk with hmk | rfl
    · exact hno m z him hmk hz
    · cases hx.symm.trans hz
      exact ht

/-- **In an accepted template a value is closed by the text behind its placeholder**, which has ink. Any other token that
stands in the value is passed over. -/
theorem closes_of_inValue {source : Text} {t : Template} (h : parse source = .ok t) (hv : InValue t.tokens k)
    (hx : t.tokens[k]? = some x) : Extraction.Passing x ∨ x.kind = .text ∧ ink x.literal ≠ [] := by
  obtain ⟨i, ⟨kind, n⟩, hi, hn, rfl, hno⟩ := hv
  obtain ⟨fs, y, behind, hy, hdrop⟩ := exists_behind_name h hn
  have hsplit : t.tokens.drop (i + 1) =
      (Token.ofFilters fs ++ [⟨.rightDelimiter, Token.closing⟩]) ++ ⟨.text, y⟩ :: behind := by simp [hdrop]
  have htext := getElem?_of_drop hsplit
  generalize hj : i + 1 + List.length _ = j at htext
  rcases Nat.lt_trichotomy k j with hlt | rfl | hgt
  · subst hj
    left
    rcases List.mem_append.1 (mem_of_drop hsplit hi hlt hx) with hmem | hmem
    · exact .inr (.inr (Token.kind_of_mem_ofFilters hmem))
    · cases List.mem_singleton.1 hmem
      exact .inr (.inl rfl)
  · cases hx.symm.trans htext
    exact .inr ⟨rfl, hy⟩
  · exact absurd rfl (hno _ _ (by omega) hgt htext)

end Template

/-- A literal with ink covers something. -/
theorem Literal.consumed?_pos {literal content : Text} {b : Nat} (hl : ink literal ≠ [])
    (h : consumed? literal content = some b) : 0 < b := by
  obtain ⟨rest, hrest, rfl⟩ := Option.map_eq_some_iff.1 h
  have hlt := length_after?_lt hl hrest
  obtain ⟨front, rfl⟩ := after?_suffix hrest
  have hfront := Text.length_le_size front
  rw [List.length_append] at hlt
  rw [Text.size_append]
  omega

namespace Extraction

variable {t : Template} {reg : Registry} {content : Text} {s s' : State} {k : Nat}

/-! ## Places in the content -/

/-- The pass, the open value and the cursor stand in the content, one behind the other. -/
structure State.Placed (content : Text) (s : State) : Prop where
  passStart : s.passStart <:+ content
  rest : s.rest <:+ s.passStart
  capture : ∀ c, s.capture = some c → s.rest <:+ c.start ∧ c.start <:+ s.passStart

theorem placed_begin (t : Template) (content : Text) : (begin t content).Placed content :=
  ⟨List.suffix_refl _, List.suffix_refl _, nofun⟩

theorem nextStart_suffix (s : State) : nextStart s <:+ s.rest := by
  unfold nextStart
  split
  · exact List.drop_suffix 1 s.rest
  · exact List.suffix_refl s.rest

theorem Step.placed (hs : s.Placed content) (h : Step t reg s s') : s'.Placed content := by
  cases h with
  | found _ _ _ hm => exact ⟨hs.passStart, (Literal.after?_suffix hm).trans hs.rest, nofun⟩
  | @slid x ahead c slid _ _ hr _ =>
    have hslid : slid <:+ s.rest := hr ▸ List.suffix_cons c slid
    exact ⟨hs.passStart, hslid.trans hs.rest, fun c hc => ⟨hslid.trans (hs.capture c hc).1, (hs.capture c hc).2⟩⟩
  | opened =>
    refine ⟨hs.passStart, hs.rest, fun c hc => ?_⟩
    cases hc
    exact ⟨List.suffix_refl _, hs.rest⟩
  | passed => exact ⟨hs.passStart, hs.rest, hs.capture⟩
  | finished =>
    have hnext := (nextStart_suffix s).trans (hs.rest.trans hs.passStart)
    exact ⟨hnext, List.suffix_refl _, nofun⟩

/-- **Where an extraction stands in its content**, in bytes: the pass began at `passStart`, and the cursor is at `cursor`. The
content can be cut at the cursor and at the beginning of an open value, and the value that would be recorded lies
between the two. -/
structure State.PlacedAt (content : Text) (s : State) (passStart cursor : Nat) : Prop where
  pass : content.RestAt passStart s.passStart
  rest : content.RestAt cursor s.rest
  pass_le : passStart ≤ cursor
  le_size : cursor ≤ size content
  boundary : content.IsBoundary cursor
  capture : ∀ c, s.capture = some c → ∃ start, content.RestAt start c.start ∧ content.IsBoundary start ∧
    start ≤ cursor ∧ c.start = between c.start s.rest ++ s.rest

theorem State.Placed.exists_placedAt (hs : s.Placed content) : ∃ passStart cursor, s.PlacedAt content passStart cursor := by
  obtain ⟨passStart, hpass⟩ := Text.exists_restAt hs.passStart
  obtain ⟨cursor, hrest⟩ := Text.exists_restAt (hs.rest.trans hs.passStart)
  refine ⟨passStart, cursor, hpass, hrest, hpass.mono hrest hs.rest, hrest.le_size, hrest.isBoundary, fun c hc => ?_⟩
  obtain ⟨hbehind, hstart⟩ := hs.capture c hc
  obtain ⟨start, hat⟩ := Text.exists_restAt (hstart.trans hs.passStart)
  refine ⟨start, hat, hat.isBoundary, hat.mono hrest hbehind, ?_⟩
  obtain ⟨value, hvalue⟩ := hbehind
  rw [← hvalue, between_append]

/-! ## Open values -/

/-- The token `k` comes next, and a value is open exactly if this token stands in one. -/
structure State.Tracks (t : Template) (s : State) (k : Nat) : Prop where
  ahead : s.ahead = t.tokens.drop k
  capture : s.capture.isSome ↔ Template.InValue t.tokens k

theorem tracks_begin (t : Template) (content : Text) : (begin t content).Tracks t 0 :=
  ⟨rfl, by simpa [begin] using Template.not_inValue_zero t.tokens⟩

theorem Step.tracks (hs : s.Tracks t k) (h : Step t reg s s') : ∃ k', s'.Tracks t k' := by
  cases h with
  | found ha hk =>
    obtain ⟨hx, rfl⟩ := Template.of_drop_eq_cons (hs.ahead.symm.trans ha)
    exact ⟨k + 1, rfl, by simpa using Template.not_inValue_succ_of_text hx hk⟩
  | slid => exact ⟨k, hs.ahead, hs.capture⟩
  | opened ha hk =>
    obtain ⟨hx, rfl⟩ := Template.of_drop_eq_cons (hs.ahead.symm.trans ha)
    exact ⟨k + 1, rfl, by simpa using Template.inValue_succ_of_name hx hk⟩
  | passed ha hk =>
    obtain ⟨hx, rfl⟩ := Template.of_drop_eq_cons (hs.ahead.symm.trans ha)
    have hiff := Template.inValue_succ_iff hx (by rcases hk with hk | hk | hk | hk <;> simp [hk])
      (by rcases hk with hk | hk | hk | hk <;> simp [hk])
    exact ⟨k + 1, rfl, hs.capture.trans hiff.symm⟩
  | finished => exact ⟨0, tracks_begin t _⟩

/-! ## All states of an extraction -/

/-- In every state of the extraction with an accepted template, the tokens ahead end in its end. -/
theorem ready_of_steps? {source : Text} (h : Template.parse source = .ok t) {n : Nat}
    (hs : steps? (next? t reg) n (begin t content) = some s) : s.Ready := by
  obtain ⟨ts, hts, ht⟩ := exists_inner_of_parse h
  exact of_steps? (fun _ _ hs h => (Step.of_next? h).ready ⟨ts, hts, ht⟩ hs) (ready_begin hts ht content) hs

/-- **What holds in every state that an extraction comes to.** The pass, an open value and the cursor stand in the content
in this order, at places where it can be cut. A value is open exactly if the token that comes next stands behind a name
and no text between them. So with a value open this token is neither a name nor the end of the template, and if it is a
text, the text is not blank, and where it is found it covers something. -/
theorem states_exact {source : Text} (h : Template.parse source = .ok t) {n : Nat}
    (hs : steps? (next? t reg) n (begin t content) = some s) :
    (∃ passStart cursor, s.PlacedAt content passStart cursor) ∧
    ∃ k x, s.ahead = t.tokens.drop k ∧ t.tokens[k]? = some x ∧
      (s.capture.isSome ↔ ∃ i y, i < k ∧ t.tokens[i]? = some y ∧ y.kind = .variableName ∧
        ∀ m z, i < m → m < k → t.tokens[m]? = some z → z.kind ≠ .text) ∧
      (s.capture.isSome → x.kind ≠ .variableName ∧ x.kind ≠ .endOfTemplate ∧
        (x.kind = .text → isBlankText x.literal = false ∧ ∀ b, Literal.consumed? x.literal s.rest = some b → 0 < b)) := by
  have hplaced : s.Placed content :=
    of_steps? (fun _ _ hs h => (Step.of_next? h).placed hs) (placed_begin t content) hs
  obtain ⟨k, hk⟩ : ∃ k, s.Tracks t k :=
    of_steps? (P := fun s => ∃ k, s.Tracks t k) (fun _ _ ⟨_, hs⟩ h => (Step.of_next? h).tracks hs)
      ⟨0, tracks_begin t content⟩ hs
  obtain ⟨ts, -, hready⟩ := ready_of_steps? h hs
  obtain ⟨x, ahead, ha⟩ : ∃ x ahead, s.ahead = x :: ahead := List.exists_cons_of_ne_nil (by simp [hready])
  obtain ⟨hx, -⟩ := Template.of_drop_eq_cons (hk.ahead.symm.trans ha)
  refine ⟨hplaced.exists_placedAt, k, x, hk.ahead, hx, hk.capture, fun hopen => ?_⟩
  rcases Template.closes_of_inValue h (hk.capture.1 hopen) hx with hpass | ⟨htext, hink⟩
  · rcases hpass with hp | hp | hp | hp <;> simp [hp]
  · refine ⟨by simp [htext], by simp [htext], fun _ => ⟨?_, fun b hb => Literal.consumed?_pos hink hb⟩⟩
    exact Bool.eq_false_iff.2 (mt Text.isBlankText_iff.1 hink)

/-- A value of two bytes is open in front of the text that closes it. -/
theorem states_exact_open :
    ∃ t s, Template.parse "<\x7b\x7ba|trim\x7d\x7d>".toList = .ok t ∧
      steps? (next? t Registry.standard) 7 (begin t "<é>".toList) = some s ∧ s.capture.isSome = true ∧
      (∃ passStart cursor, s.PlacedAt "<é>".toList passStart cursor) ∧
      ∃ k x, s.ahead = t.tokens.drop k ∧ t.tokens[k]? = some x ∧
        (∃ i y, i < k ∧ t.tokens[i]? = some y ∧ y.kind = .variableName ∧
          ∀ m z, i < m → m < k → t.tokens[m]? = some z → z.kind ≠ .text) ∧
        x.kind ≠ .variableName ∧ x.kind ≠ .endOfTemplate ∧
        (x.kind = .text → isBlankText x.literal = false ∧
          ∀ b, Literal.consumed? x.literal s.rest = some b → 0 < b) := by
  have hp : Template.parse "<\x7b\x7ba|trim\x7d\x7d>".toList =
      .ok ⟨Layout.tokens ⟨['<'], [(⟨['a'], ["trim".toList]⟩, ['>'])]⟩⟩ := by decide +kernel
  have hs : steps? (next? ⟨Layout.tokens ⟨['<'], [(⟨['a'], ["trim".toList]⟩, ['>'])]⟩⟩ Registry.standard) 7
      (begin ⟨Layout.tokens ⟨['<'], [(⟨['a'], ["trim".toList]⟩, ['>'])]⟩⟩ "<é>".toList) =
      some ⟨"<é>".toList, ['>'], [⟨.text, ['>']⟩, Token.final], some ⟨['a'], ["trim".toList], "é>".toList⟩,
        Record.empty⟩ := by decide +kernel
  obtain ⟨hplaced, k, x, hahead, hx, hopen, hnext⟩ := states_exact hp hs
  exact ⟨_, _, hp, hs, rfl, hplaced, k, x, hahead, hx, hopen.1 rfl, hnext rfl⟩

end Extraction

end PageHarvest
