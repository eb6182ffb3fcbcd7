import PageHarvest.Proofs.Simulation
import PageHarvest.Proofs.Steps

/-!
# What a step of the extraction can be

`Extraction.Step s s'` lists the steps from one state to another with all that is known when they are taken.

- `Step.of_next?`: there are no other steps.
- `Step.ready`: the tokens ahead always end in the end of the template, and nowhere else.
-/

namespace PageHarvest.Extraction

variable {t : Template} {reg : Registry} {s s' : State}

/-- The pass is complete: what comes next is the end of the template. -/
def State.Complete (s : State) : Prop := ∀ x, s.ahead.head? = some x → x.kind = .endOfTemplate ∨ x.kind = .error

/-- The tokens that stand between a name and a text. The extraction passes over them. -/
def Passing (x : Token) : Prop :=
  x.kind = .leftDelimiter ∨ x.kind = .rightDelimiter ∨ x.kind = .pipe ∨ x.kind = .filterName

/-- **The steps of the extraction.** -/
inductive Step (t : Template) (reg : Registry) (s : State) : State → Prop
  | found {x : Token} {ahead : List Token} {rest : Text} : s.ahead = x :: ahead → x.kind = .text → s.rest ≠ [] →
      Literal.after? x.literal s.rest = some rest →
      Step t reg s { s with rest, ahead, capture := none, record := close reg s.rest s.record s.capture }
  | slid {x : Token} {ahead : List Token} {c : Char} {slid : Text} : s.ahead = x :: ahead → x.kind = .text →
      s.rest = c :: slid → Literal.after? x.literal (c :: slid) = none → Step t reg s { s with rest := slid }
  | opened {x : Token} {ahead : List Token} : s.ahead = x :: ahead → x.kind = .variableName →
      Step t reg s { s with ahead, capture := some ⟨x.literal, Template.leadingFilters ahead, s.rest⟩ }
  | passed {x : Token} {ahead : List Token} : s.ahead = x :: ahead → Passing x → Step t reg s { s with ahead }
  | finished : s.Complete → nextStart s ≠ [] → Step t reg s (begin t (nextStart s))

/-- The state that comes next. -/
def next? (t : Template) (reg : Registry) (s : State) : Option State := (step t reg s).next?

/-! ## There are no other steps -/

theorem step_of_finishPass (hc : s.Complete) (h : (finishPass t s).next? = some s') : Step t reg s s' := by
  simp only [finishPass, Move.next?, Option.ite_none_left_eq_some, Option.some.injEq] at h
  obtain ⟨hne, rfl⟩ := h
  exact .finished hc hne

theorem Step.of_next? (h : next? t reg s = some s') : Step t reg s s' := by
  unfold next? step at h
  cases ha : s.ahead with
  | nil =>
    rw [ha] at h
    exact step_of_finishPass (fun x hx => by simp [ha] at hx) h
  | cons x ahead =>
    have hcomplete (hk : x.kind = .endOfTemplate ∨ x.kind = .error) : s.Complete := by
      intro y hy
      rw [ha] at hy
      cases hy
      exact hk
    simp only [ha] at h
    cases hk : x.kind with
    | text =>
      simp only [hk] at h
      cases hr : s.rest with
      | nil =>
        rw [hr] at h
        cases h
      | cons c slid =>
        simp only [hr] at h
        cases hm : Literal.after? x.literal (c :: slid) with
        | none =>
          rw [hm] at h
          cases h
          rw [← ha]
          exact .slid ha hk hr hm
        | some rest =>
          rw [hm] at h
          cases h
          rw [← hr] at hm ⊢
          exact .found ha hk (by rw [hr]; exact List.cons_ne_nil _ _) hm
    | variableName =>
      rw [hk] at h
      cases h
      exact .opened ha hk
    | leftDelimiter | rightDelimiter | pipe | filterName =>
      rw [hk] at h
      cases h
      exact .passed ha (by simp [Passing, hk])
    | endOfTemplate =>
      rw [hk] at h
      exact step_of_finishPass (hcomplete (.inl hk)) h
    | error =>
      rw [hk] at h
      exact step_of_finishPass (hcomplete (.inr hk)) h

/-! ## The tokens ahead -/

/-- The tokens ahead end in the end of the template, and nowhere else. -/
def State.Ready (s : State) : Prop := ∃ ts, Inner ts ∧ s.ahead = ts ++ [Token.final]

theorem ready_begin {ts : List Token} (hts : Inner ts) (ht : t.tokens = ts ++ [Token.final]) (content : Text) :
    (begin t content).Ready := ⟨ts, hts, ht⟩

/-- Behind a token that does not end the template come tokens that end in its end. -/
theorem State.Ready.of_cons {x : Token} {ahead : List Token} (hs : s.Ready) (ha : s.ahead = x :: ahead)
    (hx : x.kind ≠ .endOfTemplate) : ∃ ts, Inner ts ∧ ahead = ts ++ [Token.final] := by
  obtain ⟨ts, hts, he⟩ := hs
  rw [ha] at he
  cases ts with
  | nil =>
    cases he
    exact absurd rfl hx
  | cons y ts =>
    obtain ⟨rfl, rfl⟩ := List.cons.inj he
    exact ⟨ts, (List.forall_mem_cons.1 hts).2, rfl⟩

/-- In a complete pass nothing but the end of the template is ahead. -/
theorem State.Ready.ahead_of_complete (hs : s.Ready) (hc : s.Complete) : s.ahead = [Token.final] := by
  obtain ⟨ts, hts, he⟩ := hs
  cases ts with
  | nil => exact he
  | cons y ts =>
    obtain ⟨hend, herror⟩ := hts y List.mem_cons_self
    exact ((hc y (by rw [he]; rfl)).elim hend herror).elim

theorem Step.ready (ht : ∃ ts, Inner ts ∧ t.tokens = ts ++ [Token.final]) (hs : s.Ready) (h : Step t reg s s') :
    s'.Ready := by
  cases h with
  | found ha hk => exact hs.of_cons ha (by simp [hk])
  | slid => exact hs
  | opened ha hk => exact hs.of_cons ha (by simp [hk])
  | passed ha hk => exact hs.of_cons ha (by rcases hk with hk | hk | hk | hk <;> simp [hk])
  | finished => exact ht

end PageHarvest.Extraction
