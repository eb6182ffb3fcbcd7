import PageHarvest.Page.Basic

/-!
# Reading and parsing many pages

Locations wait in a queue. Getters take them, read their bodies and hand them on; parsers turn bodies into pages; a
consumer collects what comes out. Bodies and outcomes travel through two channels that hold `capacity` items at most. A
failure goes past the parsers, straight into the second channel.

`fire?` is the whole of what may happen: it says for each action whether it is possible and what it leads to, and any
order of possible actions is a run of the pipeline. `collect` follows one such order to its end.

- `work_lt_of_fire?`: every action lessens the work left, so every run ends.
-/

namespace PageHarvest

/-- How bodies are read and what records they hold. -/
structure Plan where
  read : Reader
  parse : Text → List Record

namespace Pipeline

/-- The number of items that a channel holds. -/
def capacity : Nat := 32

/-- The error of a location whose body is empty. -/
def emptyBody : Text := "Body was empty".toList

/-- A location with what reading it gave. -/
structure Fetched where
  location : Text
  body : Except Text Text

/-- A state of the pipeline. A worker holds at most one item; `none` is a worker at rest. -/
structure State where
  queue : List Text
  getters : List (Option Fetched)
  bodies : List (Text × Text)
  parsers : List (Option Outcome)
  outputs : List Outcome
  collected : List Outcome

/-- What may happen: getter `i` takes a location, getter `i` hands on what it holds, parser `j` takes a body, parser `j`
sends its outcome, or the consumer takes an outcome. -/
inductive Action where
  | fetch (i : Nat)
  | hand (i : Nat)
  | parse (j : Nat)
  | publish (j : Nat)
  | collect
  deriving DecidableEq, Repr

/-- The page that a body makes. -/
def parsed (plan : Plan) (location body : Text) : Outcome :=
  .parsed { location, size := Text.size body, records := plan.parse body }

/-- Puts an outcome into the second channel unless it is full. -/
def send? (s : State) (o : Outcome) : Option State :=
  if s.outputs.length < capacity then some { s with outputs := s.outputs ++ [o] } else none

/-- Hands on what a getter held: a body to the parsers, a failure past them. -/
def deliver? (s : State) (f : Fetched) : Option State :=
  match f.body with
  | .error e => send? s (.failed f.location e)
  | .ok [] => send? s (.failed f.location emptyBody)
  | .ok body => if s.bodies.length < capacity then some { s with bodies := s.bodies ++ [(f.location, body)] } else none

/-- The state that an action leads to, or `none` if it is not possible. -/
def fire? (plan : Plan) (s : State) : Action → Option State
  | .fetch i =>
    match s.getters[i]?, s.queue with
    | some none, location :: queue =>
      some { s with queue, getters := s.getters.set i (some ⟨location, plan.read location⟩) }
    | _, _ => none
  | .hand i =>
    match s.getters[i]? with
    | some (some f) => deliver? { s with getters := s.getters.set i none } f
    | _ => none
  | .parse j =>
    match s.parsers[j]?, s.bodies with
    | some none, (location, body) :: bodies =>
      some { s with bodies, parsers := s.parsers.set j (some (parsed plan location body)) }
    | _, _ => none
  | .publish j =>
    match s.parsers[j]? with
    | some (some o) => send? { s with parsers := s.parsers.set j none } o
    | _ => none
  | .collect =>
    match s.outputs with
    | o :: outputs => some { s with outputs, collected := s.collected ++ [o] }
    | [] => none

/-- The state at the beginning. There is at least one worker of each kind. -/
def init (getters parsers : Nat) (locations : List Text) : State where
  queue := locations
  getters := List.replicate (max getters 1) none
  bodies := []
  parsers := List.replicate (max parsers 1) none
  outputs := []
  collected := []

/-! ## Every run ends -/

/-- The number of workers that hold something. -/
def busy {α : Type} (workers : List (Option α)) : Nat := workers.countP Option.isSome

theorem busy_set_none {α : Type} {ws : List (Option α)} {i : Nat} {a : α} (h : ws[i]? = some (some a)) :
    busy (ws.set i none) + 1 = busy ws := by
  induction ws generalizing i with
  | nil => simp at h
  | cons w ws ih =>
    cases i with
    | zero => simp at h; subst h; simp [busy]
    | succ i =>
      have := ih (by simpa using h)
      simp only [busy, List.set_cons_succ, List.countP_cons] at this ⊢
      omega

theorem busy_set_some {α : Type} {ws : List (Option α)} {i : Nat} {a : α} (h : ws[i]? = some none) :
    busy (ws.set i (some a)) = busy ws + 1 := by
  induction ws generalizing i with
  | nil => simp at h
  | cons w ws ih =>
    cases i with
    | zero => simp at h; subst h; simp [busy]
    | succ i =>
      have := ih (by simpa using h)
      simp only [busy, List.set_cons_succ, List.countP_cons] at this ⊢
      omega

/-- The steps that are left if nothing gets in the way. -/
def work (s : State) : Nat :=
  5 * s.queue.length + 4 * busy s.getters + 3 * s.bodies.length + 2 * busy s.parsers + s.outputs.length

theorem work_send? {s s' : State} {o : Outcome} (h : send? s o = some s') : work s' = work s + 1 := by
  unfold send? at h
  split at h <;> cases h
  simp [work]; omega

theorem work_deliver?_le {s s' : State} {f : Fetched} (h : deliver? s f = some s') : work s' ≤ work s + 3 := by
  unfold deliver? at h
  split at h
  · have := work_send? h; omega
  · have := work_send? h; omega
  · split at h <;> cases h
    simp [work]; omega

theorem work_lt_of_fire? {plan : Plan} {s s' : State} {a : Action} (h : fire? plan s a = some s') :
    work s' < work s := by
  cases a with
  | fetch i =>
    simp only [fire?] at h
    split at h <;> cases h
    rename_i location queue hg hq
    have := busy_set_some (a := Fetched.mk location (plan.read location)) hg
    simp [work, this, hq]; omega
  | hand i =>
    simp only [fire?] at h
    split at h <;> try cases h
    rename_i f hg
    have := busy_set_none hg
    have hd := work_deliver?_le h
    simp only [work] at hd ⊢; omega
  | parse j =>
    simp only [fire?] at h
    split at h <;> cases h
    rename_i location body bodies hp hb
    have := busy_set_some (a := parsed plan location body) hp
    simp [work, this, hb]; omega
  | publish j =>
    simp only [fire?] at h
    split at h <;> try cases h
    rename_i o hp
    have := busy_set_none hp
    have hd := work_send? h
    simp only [work] at hd ⊢; omega
  | collect =>
    simp only [fire?] at h
    split at h <;> cases h
    rename_i ho
    simp [work, ho]

/-! ## One order of actions -/

/-- The actions in the order in which they are tried: what is farthest goes first. -/
def actions (s : State) : List Action :=
  .collect :: ((List.range s.parsers.length).map .publish ++ (List.range s.getters.length).map .hand ++
    (List.range s.parsers.length).map .parse ++ (List.range s.getters.length).map .fetch)

/-- The state that the first possible action leads to. -/
def next? (plan : Plan) (s : State) : Option State := (actions s).findSome? (fire? plan s)

theorem work_lt_of_next? {plan : Plan} {s s' : State} (h : next? plan s = some s') : work s' < work s := by
  obtain ⟨a, _, ha⟩ := List.exists_of_findSome?_eq_some h
  exact work_lt_of_fire? ha

/-- The state in which nothing more can happen. -/
def run (plan : Plan) (s : State) : State :=
  match _h : next? plan s with
  | none => s
  | some s' => run plan s'
termination_by work s
decreasing_by exact work_lt_of_next? _h

/-- The outcomes of all locations, in the order in which they arrive. -/
def collect (plan : Plan) (getters parsers : Nat) (locations : List Text) : List Outcome :=
  (run plan (init getters parsers locations)).collected

end Pipeline

end PageHarvest
