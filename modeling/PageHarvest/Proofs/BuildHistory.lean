import PageHarvest.Definition

/-!
# How registries are built

A registry is built by entries, one after the other: a filter, or all the standard filters. Each registry of a chain
begins with what the one before it holds. What a registry holds is told by the entries alone, however they are divided
into a chain: under each name the filter that was registered last (`Registry.Holds`). Entries that agree in this build
the same registry.

- `Registry.get?_registerAll`: the last filter of a name is found under it.
- `Registry.ext_get?`: registries in which the same filters are found are the same.
- `Registry.getElem?_chain`: the registries of a chain.
- `Registry.chain_last_wins`: what they hold, and when they cannot be told apart.
-/

namespace PageHarvest

namespace Filter

/-- The last of the filters that bears a name. -/
def lastNamed? (name : Text) (fs : List Filter) : Option Filter := fs.reverse.find? (·.name = name)

theorem lastNamed?_singleton (name : Text) (f : Filter) :
    lastNamed? name [f] = if f.name = name then some f else none := by
  by_cases h : f.name = name <;> simp [lastNamed?, h]

theorem lastNamed?_append (name : Text) (fs gs : List Filter) :
    lastNamed? name (fs ++ gs) = (lastNamed? name gs).or (lastNamed? name fs) := by
  simp [lastNamed?, List.find?_append]

theorem isSome_lastNamed?_iff {name : Text} {fs : List Filter} :
    (lastNamed? name fs).isSome ↔ ∃ f ∈ fs, f.name = name := by
  simp [lastNamed?, List.find?_isSome]

theorem Before.name_ne {f g : Filter} (h : Before f g) : f.name ≠ g.name := by
  intro e
  unfold Before at h
  rw [e] at h
  exact List.lt_irrefl _ h

/-- Among ordered filters each is found under its own name. -/
theorem find?_of_mem {fs : List Filter} (h : fs.Pairwise Before) {f : Filter} (hf : f ∈ fs) :
    fs.find? (·.name = f.name) = some f := by
  induction fs with
  | nil => cases hf
  | cons g fs ih =>
    obtain ⟨hg, hfs⟩ := List.pairwise_cons.1 h
    rcases List.mem_cons.1 hf with rfl | hf
    · simp
    · have hne := (hg f hf).name_ne
      rw [List.find?_cons_of_neg (by simpa using hne), ih hfs hf]

end Filter

namespace Registry

open PageHarvest.Filter (lastNamed? lastNamed?_append lastNamed?_singleton isSome_lastNamed?_iff)

variable {r s : Registry} {name : Text}

/-! ## Look-ups -/

theorem mem_filters_iff {f : Filter} : f ∈ r.filters ↔ r.get? f.name = some f :=
  ⟨Filter.find?_of_mem r.ordered, List.mem_of_find?_eq_some⟩

/-- The names are those under which a filter is found. -/
theorem mem_names_iff : name ∈ r.names ↔ r.contains name = true := by
  simp [names, contains, get?, List.find?_isSome]

/-- **Registries in which the same filters are found are the same.** -/
theorem ext_get? (h : ∀ name, r.get? name = s.get? name) : r = s := by
  have hmem (f : Filter) : f ∈ r.filters ↔ f ∈ s.filters := by
    rw [mem_filters_iff, mem_filters_iff, h]
  have hnodup (r : Registry) : r.filters.Nodup := r.ordered.imp fun hb e => hb.name_ne (congrArg Filter.name e)
  have hfilters : r.filters = s.filters := by
    refine List.Perm.eq_of_pairwise (fun f g _ _ hfg hgf => ?_) r.ordered s.ordered
      ((List.perm_ext_iff_of_nodup (hnodup r) (hnodup s)).2 hmem)
    exact absurd (Filter.before_trans hfg hgf) fun hb => hb.name_ne rfl
  cases r
  cases s
  cases hfilters
  rfl

/-- The last filter of a name is found under it; a name that none of them bears finds what it found before. -/
theorem get?_registerAll (r : Registry) (fs : List Filter) (name : Text) :
    (r.registerAll fs).get? name = (lastNamed? name fs).or (r.get? name) := by
  induction fs generalizing r with
  | nil => rfl
  | cons f fs ih =>
    show ((r.register f).registerAll fs).get? name = _
    rw [ih, get?_register, ← List.singleton_append, lastNamed?_append, lastNamed?_singleton, Option.or_assoc]
    by_cases h : f.name = name <;> simp [h]

theorem registerAll_append (r : Registry) (fs gs : List Filter) :
    r.registerAll (fs ++ gs) = (r.registerAll fs).registerAll gs := List.foldl_append ..

@[simp] theorem get?_empty (name : Text) : empty.get? name = none := rfl

/-! ## Builders -/

/-- What a builder is told: to add one filter, or all the standard ones. -/
inductive Entry where
  | filter (f : Filter)
  | standard

/-- The filters that an entry registers, in order. -/
def Entry.filters : Entry → List Filter
  | .filter f => [f]
  | .standard => Filter.standard

/-- The filters that entries register, in order. -/
def registered (es : List Entry) : List Filter := es.flatMap Entry.filters

/-- What a builder makes of a registry: it adds entries one after the other. -/
def build (r : Registry) (es : List Entry) : Registry := es.foldl (fun r e => r.registerAll e.filters) r

/-- The registries that one builder after the other makes. The first one begins with `r`, and each of the others with
the registry that was made before. -/
def chainFrom (r : Registry) : List (List Entry) → List Registry
  | [] => []
  | es :: stages => r.build es :: chainFrom (r.build es) stages

/-- The registries of a chain that begins with the empty one. -/
def chain (stages : List (List Entry)) : List Registry := chainFrom empty stages

theorem build_eq (r : Registry) (es : List Entry) : r.build es = r.registerAll (registered es) := by
  induction es generalizing r with
  | nil => rfl
  | cons e es ih =>
    show (r.registerAll e.filters).build es = _
    rw [ih, ← registerAll_append]
    rfl

theorem build_append (r : Registry) (es fs : List Entry) : r.build (es ++ fs) = (r.build es).build fs :=
  List.foldl_append ..

theorem length_chainFrom (r : Registry) (stages : List (List Entry)) :
    (chainFrom r stages).length = stages.length := by
  induction stages generalizing r with
  | nil => rfl
  | cons es stages ih => simp [chainFrom, ih]

/-- A registry of a chain is what one builder makes of all entries up to it. -/
theorem getElem?_chainFrom (r : Registry) (stages : List (List Entry)) {k : Nat} (hk : k < stages.length) :
    (chainFrom r stages)[k]? = some (r.build (stages.take (k + 1)).flatten) := by
  induction stages generalizing r k with
  | nil => simp at hk
  | cons es stages ih =>
    cases k with
    | zero => simp [chainFrom]
    | succ k =>
      have hk' : k < stages.length := by simpa using hk
      rw [chainFrom, List.getElem?_cons_succ, ih _ hk', ← build_append]
      rfl

theorem getElem?_chain {stages : List (List Entry)} {k : Nat} (h : (chain stages)[k]? = some r) :
    r = empty.build (stages.take (k + 1)).flatten := by
  have hk : k < stages.length := by
    rw [← length_chainFrom empty stages]
    exact (List.getElem?_eq_some_iff.1 h).1
  rw [chain, getElem?_chainFrom empty stages hk] at h
  exact (Option.some.inj h).symm

/-- The last registry of a chain. -/
theorem getLast?_chain {stages : List (List Entry)} (h : (chain stages).getLast? = some r) :
    r = empty.build stages.flatten := by
  rw [List.getLast?_eq_getElem?] at h
  have hr := getElem?_chain h
  rwa [chain, length_chainFrom, List.take_of_length_le (by omega)] at hr

/-- Further builders leave the registries of a chain as they are. -/
theorem chainFrom_prefix (r : Registry) (stages more : List (List Entry)) :
    chainFrom r stages <+: chainFrom r (stages ++ more) := by
  induction stages generalizing r with
  | nil => exact List.nil_prefix
  | cons es stages ih =>
    rw [List.cons_append, chainFrom, chainFrom, List.cons_prefix_cons]
    exact ⟨rfl, ih _⟩

/-! ## What registries hold -/

/-- A registry holds, of the filters that were registered, the last one of each name, and answers accordingly. -/
structure Holds (fs : List Filter) (r : Registry) : Prop where
  found : ∀ name, r.get? name = lastNamed? name fs
  own : ∀ name f, r.get? name = some f → f.name = name
  ascending : r.names.Pairwise fun a b => Text.bytes a < Text.bytes b
  names : ∀ name, name ∈ r.names ↔ ∃ f ∈ fs, f.name = name
  contains : ∀ name, r.contains name = true ↔ name ∈ r.names
  chained : ∀ value names, r.applyChain value names =
    names.foldl (fun v name => ((lastNamed? name fs).map fun f => f.apply v).getD v) value

/-- Registries that cannot be told apart: they give the same answers, and definitions that use them find the same. -/
structure Alike (r s : Registry) : Prop where
  names : r.names = s.names
  contains : ∀ name, r.contains name = s.contains name
  found : ∀ name, r.get? name = s.get? name
  described : r.describe = s.describe
  chained : ∀ value names, r.applyChain value names = s.applyChain value names
  parsed : ∀ source content, (Definition.parse source r).map (fun d => (d.filters.names, d.records content)) =
    (Definition.parse source s).map fun d => (d.filters.names, d.records content)

/-- What is found in a registry tells all that it holds. -/
theorem Holds.of_get? {fs : List Filter} (h : ∀ name, r.get? name = lastNamed? name fs) : Holds fs r where
  found := h
  own _ _ := name_of_get?
  ascending := List.pairwise_map.2 r.ordered
  names name := by rw [mem_names_iff, Registry.contains, h, isSome_lastNamed?_iff]
  contains _ := mem_names_iff.symm
  chained value names := by
    have hone (v name : Text) : r.applyOne v name = ((lastNamed? name fs).map fun f => f.apply v).getD v := by
      rw [applyOne_eq, h]
    rw [applyChain, funext fun v => funext fun name => hone v name]

theorem holds_build (es : List Entry) : Holds (registered es) (empty.build es) := by
  apply Holds.of_get?
  intro name
  rw [build_eq, get?_registerAll, get?_empty, Option.or_none]

/-- Registries that hold the same last filters are the same. -/
theorem Holds.eq {fs gs : List Filter} (hr : Holds fs r) (hs : Holds gs s)
    (h : ∀ name, lastNamed? name fs = lastNamed? name gs) : r = s := by
  apply ext_get?
  intro name
  rw [hr.found, hs.found, h]

/-- **The last registration wins, and no builder disturbs what was built before.** Each registry of a chain holds the last
filter of each name among all that were registered up to it, and builders that come later leave it in its place as it
is. Two chains in which every name was given the same filter last end in registries that cannot be told apart. -/
theorem chain_last_wins (stages : List (List Entry)) :
    (chain stages).length = stages.length ∧
    (∀ k r, (chain stages)[k]? = some r → Holds (registered (stages.take (k + 1)).flatten) r) ∧
    (∀ more, chain stages <+: chain (stages ++ more)) ∧
    ∀ stages' r s, (chain stages).getLast? = some r → (chain stages').getLast? = some s →
      (∀ name, lastNamed? name (registered stages.flatten) = lastNamed? name (registered stages'.flatten)) →
        Alike r s := by
  refine ⟨length_chainFrom empty stages, fun k r hr => ?_, chainFrom_prefix empty stages, fun stages' r s hr hs h => ?_⟩
  · rw [getElem?_chain hr]
    exact holds_build _
  · have hr' : Holds (registered stages.flatten) r := getLast?_chain hr ▸ holds_build _
    have hs' : Holds (registered stages'.flatten) s := getLast?_chain hs ▸ holds_build _
    obtain rfl : r = s := hr'.eq hs' h
    exact ⟨rfl, fun _ => rfl, fun _ => rfl, rfl, fun _ _ => rfl, fun _ _ => rfl⟩

/-- A filter takes the place of a standard one, and the next builder puts the standard filters back. The first registry
goes on using it. -/
theorem chain_last_wins_replaced :
    ∃ r s, (chain [[.standard, .filter ⟨"trim".toList, fun v => '[' :: (v ++ [']'])⟩], [.standard]])[0]? = some r ∧
      (chain [[.standard, .filter ⟨"trim".toList, fun v => '[' :: (v ++ [']'])⟩], [.standard]]).getLast? = some s ∧
      r.applyChain " x ".toList ["trim".toList] = "[ x ]".toList ∧ Alike s standard := by
  obtain ⟨-, hholds, -, halike⟩ :=
    chain_last_wins [[.standard, .filter ⟨"trim".toList, fun v => '[' :: (v ++ [']'])⟩], [.standard]]
  refine ⟨_, _, rfl, rfl, ?_, ?_⟩
  · rw [(hholds 0 _ rfl).chained]
    rfl
  · refine halike [[.standard]] _ _ rfl rfl fun name => ?_
    show lastNamed? name (Filter.standard ++ ([⟨"trim".toList, _⟩] ++ Filter.standard)) = lastNamed? name Filter.standard
    -- the standard filters come last, and among them is one of that name
    have hcovered : lastNamed? name Filter.standard = none → ¬ "trim".toList = name := by
      rintro h rfl
      cases h
    rw [lastNamed?_append, lastNamed?_append, lastNamed?_singleton]
    cases h : lastNamed? name Filter.standard with
    | none =>
      rw [if_neg (hcovered h)]
      rfl
    | some f => rfl

end Registry

end PageHarvest
