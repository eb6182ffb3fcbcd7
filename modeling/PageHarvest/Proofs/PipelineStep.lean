import PageHarvest.Page.Pipeline
import Mathlib.Data.List.ReduceOption
import Mathlib.Data.Multiset.AddSub

/-!
# What a step of the pipeline can be

`Pipeline.Step s s'` lists the steps of the pipeline with all that is known about the state when they are taken.
`step_iff_fire?` says that these are the actions that are possible, and no others. `follow?` takes actions one after the
other; any list of actions that it can follow is a run.

- `Step.of_fire?`, `Step.exists_fire?`: steps and actions.
- `held_set_none`, `held_set_some`: what the workers hold when one of them gives something away, or takes it.
-/

namespace PageHarvest.Pipeline

variable {plan : Plan}

/-- The error that reading a location has led to; an empty body is one too. -/
def Fetched.failure? (f : Fetched) : Option Text :=
  match f.body with
  | .error e => some e
  | .ok [] => some emptyBody
  | .ok _ => none

/-- **The steps of the pipeline.** -/
inductive Step (plan : Plan) (s : State) : State → Prop
  | fetch {i : Nat} {location : Text} {queue : List Text} : s.getters[i]? = some none → s.queue = location :: queue →
      Step plan s { s with queue, getters := s.getters.set i (some ⟨location, plan.read location⟩) }
  | fail {i : Nat} {f : Fetched} {e : Text} : s.getters[i]? = some (some f) → f.failure? = some e →
      s.outputs.length < capacity →
      Step plan s { s with getters := s.getters.set i none, outputs := s.outputs ++ [.failed f.location e] }
  | hand {i : Nat} {f : Fetched} {body : Text} : s.getters[i]? = some (some f) → f.body = .ok body → body ≠ [] →
      s.bodies.length < capacity →
      Step plan s { s with getters := s.getters.set i none, bodies := s.bodies ++ [(f.location, body)] }
  | parse {j : Nat} {location body : Text} {bodies : List (Text × Text)} : s.parsers[j]? = some none →
      s.bodies = (location, body) :: bodies →
      Step plan s { s with bodies, parsers := s.parsers.set j (some (parsed plan location body)) }
  | publish {j : Nat} {o : Outcome} : s.parsers[j]? = some (some o) → s.outputs.length < capacity →
      Step plan s { s with parsers := s.parsers.set j none, outputs := s.outputs ++ [o] }
  | collect {o : Outcome} {outputs : List Outcome} : s.outputs = o :: outputs →
      Step plan s { s with outputs, collected := s.collected ++ [o] }

/-! ## Steps and actions -/

theorem send?_eq_some_iff {s s' : State} {o : Outcome} :
    send? s o = some s' ↔ s.outputs.length < capacity ∧ s' = { s with outputs := s.outputs ++ [o] } := by
  unfold send?
  split <;> simp_all [eq_comm]

/-- What a getter holds is a failure or a body. -/
theorem Fetched.failure?_or_body (f : Fetched) : (∃ e, f.failure? = some e) ∨ ∃ body, f.body = .ok body ∧ body ≠ [] := by
  unfold failure?
  cases f.body with
  | error e => exact .inl ⟨e, rfl⟩
  | ok body =>
    cases body with
    | nil => exact .inl ⟨emptyBody, rfl⟩
    | cons c body => exact .inr ⟨c :: body, rfl, List.cons_ne_nil _ _⟩

theorem Fetched.failure?_eq_some_iff {f : Fetched} {e : Text} :
    f.failure? = some e ↔ f.body = .error e ∨ f.body = .ok [] ∧ e = emptyBody := by
  unfold failure?
  cases f.body with
  | error e' => simp
  | ok body =>
    cases body with
    | nil => simp [eq_comm]
    | cons c body => simp

theorem deliver?_of_failure? {f : Fetched} {e : Text} (h : f.failure? = some e) (s : State) :
    deliver? s f = send? s (.failed f.location e) := by
  unfold deliver?
  rcases Fetched.failure?_eq_some_iff.1 h with hb | ⟨hb, rfl⟩
  · rw [hb]
  · rw [hb]

theorem deliver?_of_body {f : Fetched} {body : Text} (h : f.body = .ok body) (hne : body ≠ []) (s : State) :
    deliver? s f =
      if s.bodies.length < capacity then some { s with bodies := s.bodies ++ [(f.location, body)] } else none := by
  unfold deliver?
  rw [h]
  cases body with
  | nil => exact absurd rfl hne
  | cons c body => rfl

/-- Every action that is possible is a step. -/
theorem Step.of_fire? {s s' : State} {a : Action} (h : fire? plan s a = some s') : Step plan s s' := by
  cases a with
  | fetch i =>
    simp only [fire?] at h
    split at h <;> cases h
    exact .fetch ‹_› ‹_›
  | hand i =>
    simp only [fire?] at h
    split at h <;> try cases h
    rename_i f hf
    rcases f.failure?_or_body with ⟨e, he⟩ | ⟨body, hb, hne⟩
    · rw [deliver?_of_failure? he, send?_eq_some_iff] at h
      obtain ⟨hc, rfl⟩ := h
      exact .fail hf he hc
    · rw [deliver?_of_body hb hne] at h
      obtain ⟨hc, he⟩ := Option.ite_none_right_eq_some.1 h
      cases he
      exact .hand hf hb hne hc
  | parse j =>
    simp only [fire?] at h
    split at h <;> cases h
    exact .parse ‹_› ‹_›
  | publish j =>
    simp only [fire?] at h
    split at h <;> try cases h
    obtain ⟨hc, rfl⟩ := send?_eq_some_iff.1 h
    exact .publish ‹_› hc
  | collect =>
    simp only [fire?] at h
    split at h <;> cases h
    exact .collect ‹_›

/-- Every step is an action that is possible. -/
theorem Step.exists_fire? {s s' : State} (h : Step plan s s') : ∃ a, fire? plan s a = some s' := by
  cases h with
  | @fetch i _ _ hg hq => exact ⟨.fetch i, by simp [fire?, hg, hq]⟩
  | @fail i f e hg he hc =>
    refine ⟨.hand i, ?_⟩
    simp only [fire?, hg]
    rw [deliver?_of_failure? he]
    exact send?_eq_some_iff.2 ⟨hc, rfl⟩
  | @hand i f body hg hb hne hc =>
    refine ⟨.hand i, ?_⟩
    simp only [fire?, hg]
    rw [deliver?_of_body hb hne, if_pos hc]
  | @parse j _ _ _ hp hb => exact ⟨.parse j, by simp [fire?, hp, hb]⟩
  | @publish j o hp hc =>
    refine ⟨.publish j, ?_⟩
    simp only [fire?, hp]
    exact send?_eq_some_iff.2 ⟨hc, rfl⟩
  | collect ho => exact ⟨.collect, by simp [fire?, ho]⟩

theorem step_iff_fire? {s s' : State} : Step plan s s' ↔ ∃ a, fire? plan s a = some s' :=
  ⟨Step.exists_fire?, fun ⟨_, h⟩ => .of_fire? h⟩

/-- No step can be taken exactly if no action is possible. -/
theorem forall_not_step_iff {s : State} : (∀ s', ¬ Step plan s s') ↔ ∀ a, fire? plan s a = none := by
  constructor
  · intro h a
    cases ha : fire? plan s a with
    | none => rfl
    | some s' => exact absurd (.of_fire? ha) (h s')
  · intro h s' hstep
    obtain ⟨a, ha⟩ := hstep.exists_fire?
    rw [h a] at ha
    cases ha

/-! ## Runs -/

/-- The state behind a list of actions, or `none` if one of them is not possible when its turn comes. -/
def follow? (plan : Plan) : State → List Action → Option State
  | s, [] => some s
  | s, a :: as => (fire? plan s a).bind fun s' => follow? plan s' as

/-- **What every step keeps, every run keeps.** -/
theorem follow?_induction {P : State → Prop} (step : ∀ {s s'}, P s → Step plan s s' → P s') {s s' : State}
    {as : List Action} (h : follow? plan s as = some s') (hs : P s) : P s' := by
  induction as generalizing s with
  | nil =>
    cases h
    exact hs
  | cons a as ih =>
    obtain ⟨s₁, hf, hr⟩ := Option.bind_eq_some_iff.1 h
    exact ih hr (step hs (.of_fire? hf))

/-- A run uses up the work it does. -/
theorem length_add_work_le {s s' : State} {as : List Action} (h : follow? plan s as = some s') :
    as.length + work s' ≤ work s := by
  induction as generalizing s with
  | nil =>
    cases h
    simp
  | cons a as ih =>
    obtain ⟨s₁, hf, hr⟩ := Option.bind_eq_some_iff.1 h
    have hlt := work_lt_of_fire? hf
    have hle := ih hr
    rw [List.length_cons]
    omega

/-! ## What workers hold -/

/-- What workers hold. -/
def held {α : Type} (workers : List (Option α)) : Multiset α := workers.reduceOption

@[simp] theorem held_cons_none {α : Type} (ws : List (Option α)) : held (none :: ws) = held ws := by
  rw [held, List.reduceOption_cons_of_none, held]

@[simp] theorem held_cons_some {α : Type} (a : α) (ws : List (Option α)) : held (some a :: ws) = a ::ₘ held ws := by
  rw [held, List.reduceOption_cons_of_some, held, Multiset.cons_coe]

theorem held_set_none {α : Type} {ws : List (Option α)} {i : Nat} {a : α} (h : ws[i]? = some (some a)) :
    a ::ₘ held (ws.set i none) = held ws := by
  induction ws generalizing i with
  | nil => cases h
  | cons w ws ih =>
    cases i with
    | zero =>
      cases h
      simp
    | succ i =>
      have := ih (by simpa using h)
      cases w with
      | none => simpa using this
      | some b => simp [Multiset.cons_swap a b, this]

theorem held_set_some {α : Type} {ws : List (Option α)} {i : Nat} {a : α} (h : ws[i]? = some none) :
    held (ws.set i (some a)) = a ::ₘ held ws := by
  induction ws generalizing i with
  | nil => cases h
  | cons w ws ih =>
    cases i with
    | zero =>
      cases h
      simp
    | succ i =>
      have := ih (by simpa using h)
      cases w with
      | none => simpa using this
      | some b => simp [Multiset.cons_swap a b, this]

end PageHarvest.Pipeline
