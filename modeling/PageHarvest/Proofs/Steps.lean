/-!
# Steps of a machine

A machine is told by the state that comes next to each of its states, if there is one.

- `of_steps?`: what every step keeps holds in each state that steps lead to.
-/

namespace PageHarvest

variable {α : Type} {next? : α → Option α}

/-- The state that a number of steps leads to. -/
def steps? (next? : α → Option α) : Nat → α → Option α
  | 0, s => some s
  | n + 1, s => (next? s).bind (steps? next? n)

theorem of_steps? {P : α → Prop} (hstep : ∀ s s', P s → next? s = some s' → P s') {n : Nat} {s s' : α} (hs : P s)
    (h : steps? next? n s = some s') : P s' := by
  induction n generalizing s with
  | zero =>
    cases h
    exact hs
  | succ n ih =>
    obtain ⟨s₁, hn, h⟩ := Option.bind_eq_some_iff.1 h
    exact ih (hstep s s₁ hs hn) h

end PageHarvest
