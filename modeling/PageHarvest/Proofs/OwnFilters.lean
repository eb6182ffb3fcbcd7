import PageHarvest.Proofs.ExtractionStep
import PageHarvest.Proofs.LengthenedTemplate

/-!
# The filters of a placeholder

A filter belongs to the placeholder in whose braces it stands; `Template.ClosedAt` says where these close. The filters are
told in three ways that walk over the tokens on their own: those behind a name (`Template.filtersFor`), all those that
the template names (`Template.filterNames`), and those that the extraction keeps for a value that has begun
(`Extraction.Capture`).

- `Layout.exists_of_name`: the placeholder whose name is a given token, and the text behind it.
- `Template.exists_closedAt`: the filters behind a name are those in front of the delimiter that closes its placeholder.
- `Template.flatMap_filtersFor`: one name after the other, they are all filters of the template.
- `Extraction.Step.standsAt`: a value that has begun has the filters of the last name that has been passed.
- `Template.filtersFor_exact`: so every filter belongs to one placeholder.
-/

namespace PageHarvest

/-! ## The placeholder of a token -/

namespace Token

/-- The placeholder whose name is a token, and what stands behind this token. -/
theorem exists_of_ofParts_eq_name {ps : List (Placeholder × Text)} {before behind : List Token} {n : Text}
    (h : ofParts ps = before ++ ⟨.variableName, n⟩ :: behind) : ∃ front p x back, ps = front ++ (p, x) :: back ∧
      p.name = n ∧ behind = ofFilters p.filters ++ ⟨.rightDelimiter, closing⟩ :: (ofText x ++ ofParts back) := by
  induction ps generalizing before with
  | nil =>
    have hmem : ⟨.variableName, n⟩ ∈ ofParts [] := h ▸ List.mem_append_right before List.mem_cons_self
    simp [ofParts, final] at hmem
  | cons p ps ih =>
    obtain ⟨p, x⟩ := p
    rw [ofParts] at h
    rcases before with _ | ⟨d, _ | ⟨n', before⟩⟩
    · simp at h
    · obtain ⟨-, h⟩ := List.cons.inj h
      obtain ⟨hn, rfl⟩ := List.cons.inj h
      exact ⟨[], p, x, ps, rfl, (Token.mk.inj hn).2, rfl⟩
    · obtain ⟨-, h⟩ := List.cons.inj h
      obtain ⟨-, h⟩ := List.cons.inj h
      have hskip : ofFilters p.filters ++ ⟨.rightDelimiter, closing⟩ :: (ofText x ++ ofParts ps) =
          (ofFilters p.filters ++ ⟨.rightDelimiter, closing⟩ :: ofText x) ++ ofParts ps := by simp
      have hnot : ⟨.variableName, n⟩ ∉ ofFilters p.filters ++ ⟨.rightDelimiter, closing⟩ :: ofText x := by
        intro hmem
        rcases List.mem_append.1 hmem with hmem | hmem
        · rcases kind_of_mem_ofFilters hmem with hk | hk <;> cases hk
        · simp [mem_ofText] at hmem
      rw [hskip] at h
      obtain ⟨between, -, hparts⟩ := exists_of_append_eq hnot h
      obtain ⟨front, q, y, back, rfl, hq, hb⟩ := ih hparts
      exact ⟨(p, x) :: front, q, y, back, rfl, hq, hb⟩

end Token

/-- The placeholder of a layout whose name is a token, and what stands behind this token. -/
theorem Layout.exists_of_name {l : Layout} {before behind : List Token} {n : Text}
    (h : l.tokens = before ++ ⟨.variableName, n⟩ :: behind) : ∃ front p x back, l.parts = front ++ (p, x) :: back ∧
      p.name = n ∧
      behind =
        Token.ofFilters p.filters ++ ⟨.rightDelimiter, Token.closing⟩ :: (Token.ofText x ++ Token.ofParts back) := by
  have hnot : ⟨.variableName, n⟩ ∉ Token.ofText l.lead := by simp [Token.mem_ofText]
  obtain ⟨between, -, hparts⟩ := Token.exists_of_append_eq hnot h
  exact Token.exists_of_ofParts_eq_name hparts

namespace Template

/-- In an accepted template, what stands behind the name of a placeholder: its filters, its closing delimiter, and a text
with ink. -/
theorem exists_behind_name {source : Text} {t : Template} (h : parse source = .ok t) {i : Nat} {n : Text}
    (hi : t.tokens[i]? = some ⟨.variableName, n⟩) : ∃ fs x behind, Text.ink x ≠ [] ∧
      t.tokens.drop (i + 1) = Token.ofFilters fs ++ ⟨.rightDelimiter, Token.closing⟩ :: ⟨.text, x⟩ :: behind := by
  obtain ⟨l, ht, hl⟩ := exists_layout_of_parse h
  obtain ⟨hlen, hget⟩ := List.getElem?_eq_some_iff.1 hi
  have hsplit : l.tokens = t.tokens.take i ++ ⟨.variableName, n⟩ :: t.tokens.drop (i + 1) := by
    rw [← hget, ← List.drop_eq_getElem_cons hlen, List.take_append_drop, ht]
  obtain ⟨front, p, x, back, hparts, -, hbehind⟩ := Layout.exists_of_name hsplit
  have hx : Text.ink x ≠ [] := hl (p, x) (hparts ▸ List.mem_append_right front List.mem_cons_self)
  rw [Token.ofText_of_ne (Text.ne_nil_of_ink hx)] at hbehind
  exact ⟨p.filters, x, _, hx, hbehind⟩

/-- The token that comes next, and what is ahead behind it. -/
theorem of_drop_eq_cons {ts ahead : List Token} {x : Token} {k : Nat} (h : ts.drop k = x :: ahead) :
    ts[k]? = some x ∧ ahead = ts.drop (k + 1) := by
  constructor
  · rw [← List.head?_drop, h, List.head?_cons]
  · rw [← List.tail_drop, h, List.tail_cons]

/-- The token behind those that follow on the token `i`. -/
theorem getElem?_of_drop {ts mid behind : List Token} {y : Token} {i : Nat} (h : ts.drop (i + 1) = mid ++ y :: behind) :
    ts[i + 1 + mid.length]? = some y := by
  rw [← List.getElem?_drop, h]
  simp

/-- A token that follows on the token `i`, and not too far behind it. -/
theorem mem_of_drop {ts mid behind : List Token} {z : Token} {i m : Nat} (h : ts.drop (i + 1) = mid ++ behind)
    (him : i < m) (hm : m < i + 1 + mid.length) (hz : ts[m]? = some z) : z ∈ mid := by
  obtain ⟨k, rfl⟩ := Nat.exists_eq_add_of_lt him
  have hk : k < mid.length := by omega
  rw [Nat.add_right_comm, ← List.getElem?_drop, h, List.getElem?_append_left hk] at hz
  exact List.mem_of_getElem? hz

/-! ## The filters behind a name -/

/-- The placeholder whose name is the token `i` is closed by the token `j`, the first closing delimiter behind it. -/
structure ClosedAt (ts : List Token) (i j : Nat) : Prop where
  lt : i < j
  closing : ∃ y, ts[j]? = some y ∧ y.kind = .rightDelimiter
  first : ∀ m z, i < m → m < j → ts[m]? = some z → z.kind ≠ .rightDelimiter

/-- The tokens between the token `i` and the token `j`. -/
def tokensBetween (ts : List Token) (i j : Nat) : List Token := (ts.take j).drop (i + 1)

theorem literals_cons (k : Token.Kind) (x : Token) (ts : List Token) :
    literals k (x :: ts) = (if x.kind = k then [x.literal] else []) ++ literals k ts := by
  by_cases hx : x.kind = k <;> simp [literals, hx]

theorem literals_ofFilters (fs : List Text) : literals .filterName (Token.ofFilters fs) = fs := by
  induction fs with
  | nil => rfl
  | cons f fs ih => simpa [literals_cons] using ih

/-- **The filters behind a name are those in front of the delimiter that closes its placeholder.** Nothing but bars and
filters stands between the two. -/
theorem exists_closedAt {source : Text} {t : Template} (h : parse source = .ok t) {i : Nat} {n : Text}
    (hi : t.tokens[i]? = some ⟨.variableName, n⟩) : ∃ j, ClosedAt t.tokens i j ∧
      (∀ x ∈ tokensBetween t.tokens i j, x.kind = .pipe ∨ x.kind = .filterName) ∧
      t.filtersFor i = literals .filterName (tokensBetween t.tokens i j) := by
  obtain ⟨fs, x, behind, -, hdrop⟩ := exists_behind_name h hi
  have hbetween : tokensBetween t.tokens i (i + 1 + (Token.ofFilters fs).length) = Token.ofFilters fs := by
    rw [tokensBetween, List.drop_take, hdrop, Nat.add_sub_cancel_left, List.take_left]
  have hkind : ∀ x ∈ Token.ofFilters fs, x.kind = .pipe ∨ x.kind = .filterName :=
    fun x hx => Token.kind_of_mem_ofFilters hx
  refine ⟨i + 1 + (Token.ofFilters fs).length, ⟨by omega, ⟨_, getElem?_of_drop hdrop, rfl⟩, ?_⟩, ?_, ?_⟩
  · intro m z him hmj hz
    rcases hkind z (mem_of_drop hdrop him hmj hz) with hz | hz <;> simp [hz]
  · rwa [hbetween]
  · rw [hbetween, literals_ofFilters, filtersFor, hdrop, leadingFilters_ofFilters]

/-! ## All filters of a template -/

/-- The indices of the names of placeholders, in ascending order. -/
def nameIndices (ts : List Token) : List Nat := ts.findIdxs fun x => x.kind = .variableName

theorem nameIndices_cons (x : Token) (ts : List Token) :
    nameIndices (x :: ts) = (if x.kind = .variableName then [0] else []) ++ (nameIndices ts).map (· + 1) := by
  rw [nameIndices, List.findIdxs_cons, List.findIdxs_start, nameIndices]
  by_cases hx : x.kind = .variableName <;> simp [hx]

/-- The filters behind the names of tokens are those of their placeholders. -/
theorem flatMap_leadingFilters (ts : List Token) :
    (nameIndices ts).flatMap (fun i => leadingFilters (ts.drop (i + 1))) =
      (placeholdersOf ts).flatMap Placeholder.filters := by
  induction ts with
  | nil => rfl
  | cons x ts ih =>
    rw [nameIndices_cons, placeholdersOf, List.flatMap_append, List.flatMap_map]
    simp only [List.drop_succ_cons, ih]
    cases hk : x.kind <;> simp

theorem literals_filterName_ofText (x : Text) : literals .filterName (Token.ofText x) = [] := by
  by_cases hx : x = []
  · rw [hx]; rfl
  · rw [Token.ofText_of_ne hx]; rfl

theorem literals_filterName_ofParts (ps : List (Placeholder × Text)) :
    literals .filterName (Token.ofParts ps) = ps.flatMap fun p => p.1.filters := by
  induction ps with
  | nil => rfl
  | cons p ps ih =>
    simp [Token.ofParts, literals_cons, literals_append, literals_ofFilters, literals_filterName_ofText, ih]

/-- **Name after name, the filters are all those of the template.** -/
theorem flatMap_filtersFor {source : Text} {t : Template} (h : parse source = .ok t) :
    (nameIndices t.tokens).flatMap t.filtersFor = t.filterNames := by
  obtain ⟨l, ht, -⟩ := exists_layout_of_parse h
  have hplaceholders : placeholdersOf t.tokens = l.parts.map Prod.fst := placeholders_of_layout ht
  calc (nameIndices t.tokens).flatMap t.filtersFor
      = (placeholdersOf t.tokens).flatMap Placeholder.filters := flatMap_leadingFilters t.tokens
    _ = l.parts.flatMap fun p => p.1.filters := by rw [hplaceholders, List.flatMap_map]
    _ = t.filterNames := by
      rw [filterNames, ht, Layout.tokens, literals_append, literals_filterName_ofText, literals_filterName_ofParts,
        List.nil_append]

end Template

/-! ## The filters of a value that has begun -/

namespace Extraction

variable {t : Template} {reg : Registry} {s s' : State} {k : Nat}

/-- The value of the capture `c` has begun at the name `i`, the last one in front of the token `k`, and has the filters
of this name. -/
structure Capture.BegunAt (t : Template) (c : Capture) (i k : Nat) : Prop where
  lt : i < k
  name : t.tokens[i]? = some ⟨.variableName, c.name⟩
  filters : c.filters = t.filtersFor i
  last : ∀ m z, i < m → m < k → t.tokens[m]? = some z → z.kind ≠ .variableName

/-- The extraction has come to the token `k`, and a value that has begun belongs to a name in front of it. -/
structure State.StandsAt (t : Template) (s : State) (k : Nat) : Prop where
  ahead : s.ahead = t.tokens.drop k
  capture : ∀ c, s.capture = some c → ∃ i, c.BegunAt t i k

theorem standsAt_begin (t : Template) (content : Text) : (begin t content).StandsAt t 0 := ⟨rfl, nofun⟩

theorem State.StandsAt.of_cons (hs : s.StandsAt t k) {x : Token} {ahead : List Token} (ha : s.ahead = x :: ahead) :
    t.tokens[k]? = some x ∧ ahead = t.tokens.drop (k + 1) := Template.of_drop_eq_cons (hs.ahead.symm.trans ha)

/-- A value that has begun goes on behind a token that is no name. -/
theorem Capture.BegunAt.succ {c : Capture} {i : Nat} {x : Token} (hc : c.BegunAt t i k) (hx : t.tokens[k]? = some x)
    (hn : x.kind ≠ .variableName) : c.BegunAt t i (k + 1) where
  lt := Nat.lt_succ_of_lt hc.lt
  name := hc.name
  filters := hc.filters
  last m z him hmk hz := by
    rcases Nat.lt_succ_iff_lt_or_eq.1 hmk with hmk | rfl
    · exact hc.last m z him hmk hz
    · cases hx.symm.trans hz
      exact hn

/-- A value is recorded as the filters of its name leave it, if the name is not the discard name. -/
theorem Capture.BegunAt.close_eq {c : Capture} {i : Nat} (hc : c.BegunAt t i k) (hd : c.name ≠ discard) (rest : Text)
    (record : Record) : close reg rest record (some c) =
      record.insert c.name (reg.applyChain (between c.start rest) (t.filtersFor i)) := by
  rw [close, if_neg hd, hc.filters]

/-- **A step keeps the values and their filters together.** -/
theorem Step.standsAt (hs : s.StandsAt t k) (h : Step t reg s s') : ∃ k', s'.StandsAt t k' := by
  cases h with
  | found ha hk => exact ⟨k + 1, (hs.of_cons ha).2, nofun⟩
  | slid => exact ⟨k, hs.ahead, hs.capture⟩
  | @opened x ahead ha hk =>
    obtain ⟨hx, rfl⟩ := hs.of_cons ha
    refine ⟨k + 1, rfl, fun c hc => ⟨k, ?_⟩⟩
    cases hc
    exact ⟨Nat.lt_succ_self k, by rw [hx, ← hk], rfl, by omega⟩
  | @passed x ahead ha hk =>
    obtain ⟨hx, rfl⟩ := hs.of_cons ha
    refine ⟨k + 1, rfl, fun c hc => ?_⟩
    obtain ⟨i, hi⟩ := hs.capture c hc
    exact ⟨i, hi.succ hx (by rcases hk with hk | hk | hk | hk <;> simp [hk])⟩
  | finished => exact ⟨0, standsAt_begin t _⟩

theorem exists_standsAt_of_steps? {n : Nat} (hs : s.StandsAt t k) (h : steps? (next? t reg) n s = some s') :
    ∃ k', s'.StandsAt t k' :=
  of_steps? (P := fun s => ∃ k, s.StandsAt t k) (fun _ _ ⟨_, hs⟩ h => (Step.of_next? h).standsAt hs) ⟨k, hs⟩ h

end Extraction

namespace Template

/-- **Every filter belongs to exactly one placeholder.** The filters of a name are those between it and the delimiter that
closes its placeholder, and between the two stand only bars and filters. One name after the other, they are all filters
of the template. And whenever the extraction of a content has a value open, this value belongs to the last name that has
been passed, and the filters of this name are those it will be recorded with. -/
theorem filtersFor_exact {source : Text} {t : Template} (h : parse source = .ok t) :
    (∀ i n, t.tokens[i]? = some ⟨.variableName, n⟩ → ∃ j, ClosedAt t.tokens i j ∧
      (∀ x ∈ tokensBetween t.tokens i j, x.kind = .pipe ∨ x.kind = .filterName) ∧
      t.filtersFor i = literals .filterName (tokensBetween t.tokens i j)) ∧
    (nameIndices t.tokens).flatMap t.filtersFor = t.filterNames ∧
    ∀ reg content n s c, steps? (Extraction.next? t reg) n (Extraction.begin t content) = some s → s.capture = some c →
      ∃ i k, s.ahead = t.tokens.drop k ∧ c.BegunAt t i k ∧
        (c.name ≠ Extraction.discard → ∀ rest record, Extraction.close reg rest record (some c) =
          record.insert c.name (reg.applyChain (Extraction.between c.start rest) (t.filtersFor i))) := by
  refine ⟨fun i n hi => exists_closedAt h hi, flatMap_filtersFor h, fun reg content n s c hs hc => ?_⟩
  obtain ⟨k, hk⟩ := Extraction.exists_standsAt_of_steps? (Extraction.standsAt_begin t content) hs
  obtain ⟨i, hi⟩ := hk.capture c hc
  exact ⟨i, k, hk.ahead, hi, hi.close_eq⟩

/-- A chain of two filters, a placeholder without filters, and another one whose filter is not that of the first. After
two steps the value of the first placeholder has begun, with the two filters that stand behind its name. -/
theorem filtersFor_exact_chains :
    ∃ t, parse "\x7b\x7ba|trim|nope\x7d\x7d-\x7b\x7b_\x7d\x7d.\x7b\x7bb|pence\x7d\x7d;".toList = .ok t ∧
      nameIndices t.tokens = [1, 9, 13] ∧ t.tokens[1]? = some ⟨.variableName, ['a']⟩ ∧
      (∃ j, ClosedAt t.tokens 1 j ∧ (∀ x ∈ tokensBetween t.tokens 1 j, x.kind = .pipe ∨ x.kind = .filterName) ∧
        literals .filterName (tokensBetween t.tokens 1 j) = ["trim".toList, "nope".toList]) ∧
      t.filterNames = ["trim".toList, "nope".toList] ++ [] ++ ["pence".toList] ∧
      ∃ s c i k, steps? (Extraction.next? t Registry.standard) 2 (Extraction.begin t "x-y.z;".toList) = some s ∧
        s.capture = some c ∧ c.filters = ["trim".toList, "nope".toList] ∧ s.ahead = t.tokens.drop k ∧
        c.BegunAt t i k := by
  have hp : parse "\x7b\x7ba|trim|nope\x7d\x7d-\x7b\x7b_\x7d\x7d.\x7b\x7bb|pence\x7d\x7d;".toList =
      .ok ⟨Layout.tokens ⟨[], [(⟨['a'], ["trim".toList, "nope".toList]⟩, ['-']), (⟨['_'], []⟩, ['.']),
        (⟨['b'], ["pence".toList]⟩, [';'])]⟩⟩ := by decide +kernel
  obtain ⟨hclosed, hall, hbegun⟩ := filtersFor_exact hp
  obtain ⟨j, hj, hkinds, hfilters⟩ := hclosed 1 ['a'] (by decide)
  obtain ⟨i, k, hahead, hi, -⟩ := hbegun Registry.standard "x-y.z;".toList 2 _ _ rfl rfl
  exact ⟨_, hp, by decide, by decide, ⟨j, hj, hkinds, hfilters.symm⟩, hall.symm, _, _, i, k, rfl, rfl, rfl, hahead, hi⟩

end Template

end PageHarvest
