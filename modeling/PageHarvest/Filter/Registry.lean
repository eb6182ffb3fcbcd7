import PageHarvest.Filter.Standard
import PageHarvest.Text.Quoted

/-!
# Registries of filters

A `Registry` holds filters under their own names, each name once, ascending by the UTF-8 form of the names. Registering
a filter under a name that is taken replaces the filter; a registry is a value, so the one it was built from stays as
it was.

- `get?_register`: a registered filter is found under its name, and all other names find what they found before.
- `name_of_get?`: a filter that is found bears the name it was looked up by.
-/

namespace PageHarvest

namespace Filter

/-- Does the name of one filter come before the name of the other in the order of their bytes? -/
def Before (f g : Filter) : Prop := Text.bytes f.name < Text.bytes g.name

instance (f g : Filter) : Decidable (Before f g) := inferInstanceAs (Decidable (Text.bytes f.name < Text.bytes g.name))

/-- Puts a filter in its place among ordered filters, replacing the one of its name. -/
def place (f : Filter) : List Filter → List Filter
  | [] => [f]
  | g :: gs =>
    if g.name = f.name then f :: gs
    else if Before f g then f :: g :: gs
    else g :: place f gs

theorem before_trans {f g h : Filter} (a : Before f g) (b : Before g h) : Before f h := List.lt_trans a b

theorem before_of_not_before {f g : Filter} (h : ¬ Before f g) (n : g.name ≠ f.name) : Before g f :=
  Std.lt_of_le_of_ne (Std.not_lt.1 h) fun e => n (Text.bytes_injective e)

theorem mem_place {f g : Filter} {fs : List Filter} (h : g ∈ place f fs) : g = f ∨ g ∈ fs := by
  induction fs with
  | nil => simpa [place] using h
  | cons x xs ih =>
    simp only [place] at h
    split at h
    · rcases List.mem_cons.1 h with h | h
      · exact .inl h
      · exact .inr (List.mem_cons_of_mem _ h)
    · split at h
      · simpa using h
      · rcases List.mem_cons.1 h with h | h
        · exact .inr (h ▸ List.mem_cons_self)
        · exact (ih h).imp_right (List.mem_cons_of_mem _)

theorem pairwise_place (f : Filter) {fs : List Filter} (h : fs.Pairwise Before) : (place f fs).Pairwise Before := by
  induction fs with
  | nil => simp [place]
  | cons x xs ih =>
    obtain ⟨hx, hxs⟩ := List.pairwise_cons.1 h
    simp only [place]
    split
    · rename_i e
      refine List.pairwise_cons.2 ⟨fun y hy => ?_, hxs⟩
      have := hx y hy
      unfold Before at this ⊢
      rwa [← e]
    · rename_i e
      split
      · rename_i b
        refine List.pairwise_cons.2 ⟨fun y hy => ?_, h⟩
        rcases List.mem_cons.1 hy with rfl | hy
        · exact b
        · exact before_trans b (hx y hy)
      · rename_i b
        refine List.pairwise_cons.2 ⟨fun y hy => ?_, ih hxs⟩
        rcases mem_place hy with rfl | hy
        · exact before_of_not_before b e
        · exact hx y hy

end Filter

/-- Filters in the order of their names' bytes, each name once. -/
structure Registry where
  filters : List Filter
  ordered : filters.Pairwise Filter.Before

namespace Registry

/-- The registry without filters. -/
def empty : Registry := ⟨[], List.Pairwise.nil⟩

/-- Adds a filter, replacing the one of its name. -/
def register (r : Registry) (f : Filter) : Registry :=
  ⟨Filter.place f r.filters, Filter.pairwise_place f r.ordered⟩

/-- Adds filters one after the other. -/
def registerAll (r : Registry) (fs : List Filter) : Registry := fs.foldl register r

/-- The registry of the standard filters. -/
def standard : Registry := empty.registerAll Filter.standard

/-- The registered names, ascending by their bytes. -/
def names (r : Registry) : List Text := r.filters.map Filter.name

/-- The filter of a name. -/
def get? (r : Registry) (name : Text) : Option Filter := r.filters.find? (·.name = name)

/-- Is a filter registered under the name? -/
def contains (r : Registry) (name : Text) : Bool := (r.get? name).isSome

/-- Runs a value through one filter; a name that is not registered leaves it as it is. -/
def applyOne (r : Registry) (value name : Text) : Text :=
  match r.get? name with
  | some f => f.apply value
  | none => value

/-- Runs a value through the filters of the given names, from left to right. -/
def applyChain (r : Registry) (value : Text) (names : List Text) : Text := names.foldl r.applyOne value

/-- A one-line description that lists the quoted names. -/
def describe (r : Registry) : Text :=
  "FilterRegistry \x7b filters: [".toList ++ ((r.names.map Text.quoted).intersperse ", ".toList).flatten ++
    "] \x7d".toList

theorem applyOne_eq (r : Registry) (value name : Text) :
    r.applyOne value name = ((r.get? name).map fun f => f.apply value).getD value := by
  unfold applyOne
  cases r.get? name <;> rfl

theorem name_of_get? {r : Registry} {name : Text} {f : Filter} (h : r.get? name = some f) : f.name = name := by
  simpa using List.find?_some h

theorem find?_place (f : Filter) (fs : List Filter) (name : Text) :
    (Filter.place f fs).find? (·.name = name) =
      if f.name = name then some f else fs.find? (·.name = name) := by
  induction fs with
  | nil => by_cases h : f.name = name <;> simp [Filter.place, h]
  | cons x xs ih =>
    simp only [Filter.place]
    split
    · rename_i e
      by_cases h : f.name = name
      · simp [h]
      · simp [h, e]
    · rename_i e
      split
      · by_cases h : f.name = name <;> simp [h, List.find?_cons]
      · by_cases h : f.name = name
        · subst h
          simp [e, ih]
        · by_cases hx : x.name = name <;> simp [h, hx, ih]

theorem get?_register (r : Registry) (f : Filter) (name : Text) :
    (r.register f).get? name = if f.name = name then some f else r.get? name :=
  find?_place f r.filters name

end Registry

end PageHarvest
