import PageHarvest.Proofs.PipelineStep
import Mathlib.Algebra.Order.Group.Multiset
import Mathlib.Tactic.Abel

/-!
# Every location is answered once

Whatever the order of the actions, the locations in the pipeline are those it was given: a step moves a location from one
place to the next and neither drops nor doubles it (`Step.locations_eq`). What travels with a location is what its page
says (`Sound`). As long as a location is not answered, something can happen (`exists_step`): what stands farthest on can
always move, since everything in front of it is empty. With `work_lt_of_fire?` each run ends, and then all locations have
been answered.

- `pipeline_answers_once`: the state behind any list of actions.
- `collect_perm`: the outcomes that `collect` gives.
-/

namespace PageHarvest.Pipeline

variable {plan : Plan} {s s' : State}

/-! ## Where the locations are -/

/-- The locations in the pipeline, each as often as it is there: in the queue, with the workers, in the channels, and
collected. -/
def State.locations (s : State) : Multiset Text :=
  s.queue + (held s.getters).map Fetched.location + (s.bodies.map Prod.fst : List Text) +
    (held s.parsers).map Outcome.location + (s.outputs.map Outcome.location : List Text) +
    (s.collected.map Outcome.location : List Text)

/-- **A step moves a location on.** It neither drops nor doubles it. -/
theorem Step.locations_eq (h : Step plan s s') : s'.locations = s.locations := by
  cases h with
  | fetch hg hq =>
    simp only [State.locations, held_set_some hg, hq, ← Multiset.cons_coe, ← Multiset.singleton_add, Multiset.map_add,
      Multiset.map_singleton]
    abel
  | fail hg he hc =>
    simp only [State.locations, ← held_set_none hg, Outcome.location, List.map_append, List.map_cons, List.map_nil,
      ← Multiset.coe_add, Multiset.coe_singleton, ← Multiset.singleton_add, Multiset.map_add, Multiset.map_singleton]
    abel
  | hand hg hb hne hc =>
    simp only [State.locations, ← held_set_none hg, List.map_append, List.map_cons, List.map_nil, ← Multiset.coe_add,
      Multiset.coe_singleton, ← Multiset.singleton_add, Multiset.map_add, Multiset.map_singleton]
    abel
  | parse hp hb =>
    simp only [State.locations, held_set_some hp, hb, parsed, Outcome.location, List.map_cons, ← Multiset.cons_coe,
      ← Multiset.singleton_add, Multiset.map_add, Multiset.map_singleton]
    abel
  | publish hp hc =>
    simp only [State.locations, ← held_set_none hp, List.map_append, List.map_cons, List.map_nil, ← Multiset.coe_add,
      Multiset.coe_singleton, ← Multiset.singleton_add, Multiset.map_add, Multiset.map_singleton]
    abel
  | collect ho =>
    simp only [State.locations, ho, List.map_append, List.map_cons, List.map_nil, ← Multiset.coe_add,
      ← Multiset.cons_coe, ← Multiset.singleton_add]
    abel

/-! ## What becomes of them -/

/-- What becomes of a location: the error of reading it, an error if there is nothing in its body, or the page with the
number of bytes of the body and the records in it. -/
def answer (plan : Plan) (location : Text) : Outcome :=
  match plan.read location with
  | .error e => .failed location e
  | .ok body =>
    if body = [] then .failed location "Body was empty".toList
    else .parsed ⟨location, (Text.bytes body).length, plan.parse body⟩

theorem answer_of_failure? {f : Fetched} (hf : f.body = plan.read f.location) {e : Text} (h : f.failure? = some e) :
    answer plan f.location = .failed f.location e := by
  rw [answer, ← hf]
  rcases Fetched.failure?_eq_some_iff.1 h with hb | ⟨hb, rfl⟩
  · rw [hb]
  · rw [hb]
    rfl

theorem answer_of_body {location body : Text} (h : plan.read location = .ok body) (hne : body ≠ []) :
    answer plan location = parsed plan location body := by
  simp only [answer, h, if_neg hne, Text.length_bytes, parsed]

/-- What stands in the pipeline is what reading and parsing the locations gives. -/
structure Sound (plan : Plan) (s : State) : Prop where
  fetched : ∀ f, some f ∈ s.getters → f.body = plan.read f.location
  bodies : ∀ b ∈ s.bodies, plan.read b.1 = .ok b.2 ∧ b.2 ≠ []
  parsers : ∀ o, some o ∈ s.parsers → o = answer plan o.location
  outputs : ∀ o ∈ s.outputs, o = answer plan o.location
  collected : ∀ o ∈ s.collected, o = answer plan o.location

/-- What a worker holds when one of them has been given something, or nothing. -/
theorem holds_of_set {α : Type} {P : α → Prop} {ws : List (Option α)} (h : ∀ a, some a ∈ ws → P a) {i : Nat}
    {w : Option α} (hw : ∀ a, w = some a → P a) : ∀ a, some a ∈ ws.set i w → P a := by
  intro a ha
  rcases List.mem_or_eq_of_mem_set ha with ha | ha
  · exact h a ha
  · exact hw a ha.symm

/-- What an item list holds when one more has been put at its end. -/
theorem holds_of_append {α : Type} {P : α → Prop} {xs : List α} (h : ∀ x ∈ xs, P x) {y : α} (hy : P y) :
    ∀ x ∈ xs ++ [y], P x := List.forall_mem_append.2 ⟨h, List.forall_mem_singleton.2 hy⟩

theorem Step.sound (hs : Sound plan s) (h : Step plan s s') : Sound plan s' := by
  obtain ⟨hf, hb, hp, ho, hc⟩ := hs
  cases h with
  | fetch hg hq =>
    refine ⟨holds_of_set hf fun f e => ?_, hb, hp, ho, hc⟩
    cases e
    rfl
  | @fail i f e hg he hcap =>
    have hfetched := hf f (List.mem_of_getElem? hg)
    exact ⟨holds_of_set hf nofun, hb, hp, holds_of_append ho (answer_of_failure? hfetched he).symm, hc⟩
  | @hand i f body hg hbody hne hcap =>
    have hfetched := hf f (List.mem_of_getElem? hg)
    exact ⟨holds_of_set hf nofun, holds_of_append hb ⟨hfetched.symm.trans hbody, hne⟩, hp, ho, hc⟩
  | @parse j location body bodies hg hbodies =>
    rw [hbodies] at hb
    obtain ⟨⟨hread, hne⟩, hb⟩ := List.forall_mem_cons.1 hb
    refine ⟨hf, hb, holds_of_set hp fun o e => ?_, ho, hc⟩
    cases e
    exact (answer_of_body hread hne).symm
  | @publish j o hg hcap =>
    exact ⟨hf, hb, holds_of_set hp nofun, holds_of_append ho (hp o (List.mem_of_getElem? hg)), hc⟩
  | collect houtputs =>
    rw [houtputs] at ho
    obtain ⟨ho', ho⟩ := List.forall_mem_cons.1 ho
    exact ⟨hf, hb, hp, ho, holds_of_append hc ho'⟩

/-! ## Something can happen -/

/-- A worker holds something, or all are at rest. -/
theorem busy_or_rest {α : Type} (ws : List (Option α)) :
    (∃ (i : Nat) (a : α), ws[i]? = some (some a)) ∨ held ws = 0 ∧ (ws ≠ [] → ws[0]? = some none) := by
  induction ws with
  | nil => exact .inr ⟨rfl, fun h => absurd rfl h⟩
  | cons w ws ih =>
    cases w with
    | some a => exact .inl ⟨0, a, rfl⟩
    | none =>
      rcases ih with ⟨i, a, h⟩ | ⟨h, -⟩
      · exact .inl ⟨i + 1, a, by simpa using h⟩
      · exact .inr ⟨by simpa using h, fun _ => rfl⟩

/-- **As long as a location is not collected, something can happen.** -/
theorem exists_step (plan : Plan) (hg : s.getters ≠ []) (hp : s.parsers ≠ [])
    (h : s.locations ≠ (s.collected.map Outcome.location : List Text)) : ∃ s', Step plan s s' := by
  -- from the consumer back to the queue: each place is empty, or what is in it can move on
  cases ho : s.outputs with
  | cons o outputs => exact ⟨_, .collect ho⟩
  | nil =>
  have hroom : s.outputs.length < capacity := by simp [ho, capacity]
  rcases busy_or_rest s.parsers with ⟨j, o, hj⟩ | ⟨hparsers, hrest⟩
  · exact ⟨_, .publish hj hroom⟩
  cases hb : s.bodies with
  | cons b bodies => exact ⟨_, .parse (hrest hp) hb⟩
  | nil =>
  have hroom' : s.bodies.length < capacity := by simp [hb, capacity]
  rcases busy_or_rest s.getters with ⟨i, f, hi⟩ | ⟨hgetters, hrest⟩
  · rcases f.failure?_or_body with ⟨e, he⟩ | ⟨body, hbody, hne⟩
    · exact ⟨_, .fail hi he hroom⟩
    · exact ⟨_, .hand hi hbody hne hroom'⟩
  cases hq : s.queue with
  | cons location queue => exact ⟨_, .fetch (hrest hg) hq⟩
  | nil => exact absurd (by simp [State.locations, ho, hparsers, hb, hgetters, hq]) h

/-! ## Runs -/

/-- What holds throughout a run over some locations. -/
structure Valid (plan : Plan) (locations : List Text) (s : State) : Prop extends Sound plan s where
  conserved : s.locations = locations
  bodies_le : s.bodies.length ≤ capacity
  outputs_le : s.outputs.length ≤ capacity
  getters_ne_nil : s.getters ≠ []
  parsers_ne_nil : s.parsers ≠ []

theorem valid_init (getters parsers : Nat) (locations : List Text) :
    Valid plan locations (init getters parsers locations) where
  fetched f hf := by simp [init] at hf
  bodies := nofun
  parsers o ho := by simp [init] at ho
  outputs := nofun
  collected := nofun
  conserved := by simp [State.locations, init, held]
  bodies_le := Nat.zero_le _
  outputs_le := Nat.zero_le _
  getters_ne_nil := by simp [init]
  parsers_ne_nil := by simp [init]

theorem Step.valid {locations : List Text} (hs : Valid plan locations s) (h : Step plan s s') :
    Valid plan locations s' where
  toSound := h.sound hs.toSound
  conserved := h.locations_eq.trans hs.conserved
  bodies_le := by
    have hle := hs.bodies_le
    cases h with
    | hand _ _ _ hc => simpa using Nat.succ_le_of_lt hc
    | parse _ hb =>
      rw [hb, List.length_cons] at hle
      exact (Nat.le_succ _).trans hle
    | _ => exact hle
  outputs_le := by
    have hle := hs.outputs_le
    cases h with
    | fail _ _ hc | publish _ hc => simpa using Nat.succ_le_of_lt hc
    | collect ho =>
      rw [ho, List.length_cons] at hle
      exact (Nat.le_succ _).trans hle
    | _ => exact hle
  getters_ne_nil := by cases h <;> simpa using hs.getters_ne_nil
  parsers_ne_nil := by cases h <;> simpa using hs.parsers_ne_nil

/-- Where nothing can happen, each location has been answered. -/
theorem Valid.collected_perm {locations : List Text} (hs : Valid plan locations s) (h : ∀ s', ¬ Step plan s s') :
    s.collected.Perm (locations.map (answer plan)) := by
  have hall : (s.collected.map Outcome.location).Perm locations := by
    rw [← Multiset.coe_eq_coe, ← hs.conserved]
    by_contra hne
    obtain ⟨s', hstep⟩ := exists_step plan hs.getters_ne_nil hs.parsers_ne_nil (Ne.symm hne)
    exact h s' hstep
  have hanswer : s.collected = (s.collected.map Outcome.location).map (answer plan) := by
    rw [List.map_map]
    exact (List.map_id _).symm.trans (List.map_congr_left hs.collected)
  rw [hanswer]
  exact hall.map _

/-- **Every location is answered exactly once**, whatever the order of the actions. Behind any list of actions the
locations in the pipeline are those it was given, no channel holds more than it may, each outcome is the right one for
its location, and something can happen as long as there is a location that has not been collected as often as it was
given. There are at most five actions for each location, and when nothing more can happen the outcomes collected are
those of all locations. -/
theorem pipeline_answers_once (plan : Plan) (getters parsers : Nat) (locations : List Text) {actions : List Action}
    {s : State} (h : follow? plan (init getters parsers locations) actions = some s) :
    s.locations = locations ∧ s.bodies.length ≤ capacity ∧ s.outputs.length ≤ capacity ∧
    (∀ o, some o ∈ s.parsers ∨ o ∈ s.outputs ∨ o ∈ s.collected → o = answer plan o.location) ∧
    ((∃ l, (s.collected.map Outcome.location).count l < locations.count l) → ∃ a s', fire? plan s a = some s') ∧
    actions.length ≤ 5 * locations.length ∧
    ((∀ a, fire? plan s a = none) → s.collected.Perm (locations.map (answer plan))) := by
  have hs : Valid plan locations s := follow?_induction Step.valid h (valid_init getters parsers locations)
  refine ⟨hs.conserved, hs.bodies_le, hs.outputs_le, ?_, ?_, ?_, ?_⟩
  · rintro o (ho | ho | ho)
    · exact hs.parsers o ho
    · exact hs.outputs o ho
    · exact hs.collected o ho
  · rintro ⟨l, hl⟩
    have hne : s.locations ≠ (s.collected.map Outcome.location : List Text) := by
      intro e
      rw [hs.conserved, Multiset.coe_eq_coe] at e
      exact absurd (e.count_eq l) (by omega)
    obtain ⟨s', hstep⟩ := exists_step plan hs.getters_ne_nil hs.parsers_ne_nil hne
    obtain ⟨a, ha⟩ := step_iff_fire?.1 hstep
    exact ⟨a, s', ha⟩
  · have hwork : work (init getters parsers locations) = 5 * locations.length := by
      simp [work, init, busy, List.countP_replicate]
    have hle := length_add_work_le h
    omega
  · intro hnone
    refine hs.collected_perm fun s' hstep => ?_
    obtain ⟨a, ha⟩ := step_iff_fire?.1 hstep
    rw [hnone a] at ha
    cases ha

/-- Two getters and a parser: the second location fails and overtakes the first one, the third one still waits. -/
theorem pipeline_answers_once_overtaken :
    ∃ plan s, follow? plan (init 2 0 [['a'], ['b'], ['a']]) [.fetch 0, .fetch 1, .hand 1, .collect] = some s ∧
      s.collected = [.failed ['b'] ['?']] ∧ s.locations = ([['a'], ['b'], ['a']] : List Text) ∧
      ∃ a s', fire? plan s a = some s' := by
  have h : follow? ⟨fun l => if l = ['b'] then .error ['?'] else .ok ['x'], fun _ => []⟩
      (init 2 0 [['a'], ['b'], ['a']]) [.fetch 0, .fetch 1, .hand 1, .collect] =
      some ⟨[['a']], [some ⟨['a'], .ok ['x']⟩, none], [], [none], [], [.failed ['b'] ['?']]⟩ := rfl
  obtain ⟨hl, -, -, -, hstep, -⟩ := pipeline_answers_once _ 2 0 _ h
  exact ⟨_, _, h, rfl, hl, hstep ⟨['a'], by decide⟩⟩

/-- At the end of a run each location has been answered. -/
theorem collected_perm_of_follow? {getters parsers : Nat} {locations : List Text} {actions : List Action}
    (h : follow? plan (init getters parsers locations) actions = some s) (hnone : ∀ a, fire? plan s a = none) :
    s.collected.Perm (locations.map (answer plan)) := by
  have hs : Valid plan locations s := follow?_induction Step.valid h (valid_init getters parsers locations)
  exact hs.collected_perm (forall_not_step_iff.2 hnone)

/-- There are at most five actions for each location. -/
theorem length_le_of_follow? {getters parsers : Nat} {locations : List Text} {actions : List Action}
    (h : follow? plan (init getters parsers locations) actions = some s) : actions.length ≤ 5 * locations.length := by
  have hwork : work (init getters parsers locations) = 5 * locations.length := by
    simp [work, init, busy, List.countP_replicate]
  have hle := length_add_work_le h
  omega

/-! ## The order that `collect` follows -/

/-- Every action that is possible is among those that are tried. -/
theorem mem_actions_of_fire? {a : Action} (h : fire? plan s a = some s') : a ∈ actions s := by
  have index {α : Type} {ws : List α} {i : Nat} {w : α} (h : ws[i]? = some w) : i < ws.length :=
    (List.getElem?_eq_some_iff.1 h).1
  cases a with
  | fetch i | hand i | parse i | publish i =>
    simp only [fire?] at h
    split at h <;> try cases h
    simp [actions, index ‹_›]
  | collect => exact List.mem_cons_self

theorem follow?_run (plan : Plan) (s : State) :
    ∃ as, follow? plan s as = some (run plan s) ∧ ∀ s', ¬ Step plan (run plan s) s' := by
  fun_induction run plan s with
  | case1 s h =>
    refine ⟨[], rfl, fun s' hstep => ?_⟩
    obtain ⟨a, ha⟩ := step_iff_fire?.1 hstep
    rw [next?, List.findSome?_eq_none_iff] at h
    rw [h a (mem_actions_of_fire? ha)] at ha
    cases ha
  | case2 s s' h ih =>
    obtain ⟨as, hfollow, hnone⟩ := ih
    obtain ⟨a, -, ha⟩ := List.exists_of_findSome?_eq_some h
    exact ⟨a :: as, by rw [follow?, ha, Option.bind_some, hfollow], hnone⟩

/-- The outcomes that are collected are those of all locations. -/
theorem collect_perm (plan : Plan) (getters parsers : Nat) (locations : List Text) :
    (collect plan getters parsers locations).Perm (locations.map (answer plan)) := by
  obtain ⟨as, hfollow, hnone⟩ := follow?_run plan (init getters parsers locations)
  exact (follow?_induction Step.valid hfollow (valid_init getters parsers locations)).collected_perm hnone

end PageHarvest.Pipeline
