import PageHarvest.Extraction.Basic
import PageHarvest.Proofs.Grammar
import Mathlib.Data.List.Induction

/-!
# The record of a pass

What the record of a pass holds, read off from the raw values of its placeholders. A raw value goes through the filters
of its placeholder that the registry has, from left to right (`Registry.filtered`). A name stands where it first comes
up, with the last value that it is given (`Fields.settled`), and the discard name is left out (`Placeholder.record`).

- `Registry.applyChain_eq`: a chain of filters does to a value what the filters of its names do in turn.
- `Record.fields_ofList`: inserting fields one after the other settles them.
- `Placeholder.ofList_fields`: so inserting the fields of a pass in order makes its record.
-/

namespace PageHarvest

/-! ## Fields that are set again -/

/-- The names of fields, each once and where it first comes up, with the last value that it is given. -/
def Fields.settled (fs : List (Text × Text)) : List (Text × Text) :=
  (fs.map Prod.fst).eraseDups.map fun name => (name, (fs.reverse.lookup name).getD [])

/-- The keys of a record are the names that have been set, in the order in which they first came up. -/
theorem Record.keys_ofList (fs : List (Text × Text)) : (ofList fs).keys = (fs.map Prod.fst).eraseDups := by
  induction fs using List.reverseRec with
  | nil => rfl
  | append_singleton fs f ih =>
    have hsnoc : ofList (fs ++ [f]) = (ofList fs).insert f.1 f.2 := insertAll_append ..
    have hmem : f.1 ∈ (ofList fs).keys ↔ f.1 ∈ fs.map Prod.fst := by rw [ih, List.mem_eraseDups]
    rw [hsnoc, keys_insert, List.map_append, List.eraseDups_append]
    by_cases hf : f.1 ∈ fs.map Prod.fst
    · rw [if_pos (hmem.2 hf), ih]
      simp [List.removeAll, hf]
    · rw [if_neg (mt hmem.1 hf), ih]
      simp [List.removeAll, hf, List.eraseDups_cons]

namespace Fields

variable {fs gs : List (Text × Text)} {name : Text}

theorem lookup_eq_none_iff : fs.lookup name = none ↔ name ∉ fs.map Prod.fst := by
  rw [List.lookup_eq_none_iff, List.mem_map]
  constructor
  · rintro h ⟨f, hf, rfl⟩
    exact absurd (h f hf) (by simp)
  · intro h f hf
    rw [bne_iff_ne]
    rintro rfl
    exact h ⟨f, hf, rfl⟩

theorem lookup_reverse_eq_none_iff : fs.reverse.lookup name = none ↔ name ∉ fs.map Prod.fst := by
  rw [lookup_eq_none_iff, List.map_reverse, List.mem_reverse]

/-- Fields in one order with the same values are the same. -/
theorem ext_of_lookup (hn : (fs.map Prod.fst).Nodup) (hk : fs.map Prod.fst = gs.map Prod.fst)
    (hl : ∀ name, fs.lookup name = gs.lookup name) : fs = gs := by
  induction fs generalizing gs with
  | nil =>
    rw [List.map_nil, eq_comm, List.map_eq_nil_iff] at hk
    exact hk.symm
  | cons f fs ih =>
    cases gs with
    | nil => cases hk
    | cons g gs =>
      obtain ⟨hfg, hk⟩ := List.cons.inj hk
      obtain ⟨hnot, hn⟩ := List.nodup_cons.1 hn
      have hvalue := hl f.1
      rw [lookup_cons, lookup_cons, if_pos rfl, if_pos hfg] at hvalue
      have htail (name : Text) : fs.lookup name = gs.lookup name := by
        have hname := hl name
        rw [lookup_cons, lookup_cons, ← hfg] at hname
        by_cases hf : name = f.1
        · subst hf
          rw [lookup_eq_none_iff.2 hnot, lookup_eq_none_iff.2 (hk ▸ hnot)]
        · rwa [if_neg hf, if_neg hf] at hname
      rw [Prod.ext hfg (Option.some.inj hvalue), ih hn hk htail]

theorem lookup_map_pair (names : List Text) (value : Text → Text) (name : Text) :
    (names.map fun n => (n, value n)).lookup name = if name ∈ names then some (value name) else none := by
  induction names with
  | nil => rfl
  | cons n names ih =>
    rw [List.map_cons, lookup_cons, ih]
    by_cases h : name = n <;> simp [h]

theorem map_fst_settled (fs : List (Text × Text)) : (settled fs).map Prod.fst = (fs.map Prod.fst).eraseDups := by
  simp [settled, Function.comp_def]

theorem nodup_settled (fs : List (Text × Text)) : ((settled fs).map Prod.fst).Nodup := by
  rw [map_fst_settled, ← Record.keys_ofList]
  exact (Record.ofList fs).nodup

/-- The last value that a name is given is the one that it has. -/
theorem lookup_settled (fs : List (Text × Text)) (name : Text) : (settled fs).lookup name = fs.reverse.lookup name := by
  rw [settled, lookup_map_pair]
  by_cases hmem : name ∈ fs.map Prod.fst
  · obtain ⟨v, hv⟩ := Option.ne_none_iff_exists'.1 (mt lookup_reverse_eq_none_iff.1 (not_not.2 hmem))
    rw [if_pos (List.mem_eraseDups.2 hmem), hv]
    rfl
  · rw [if_neg (mt List.mem_eraseDups.1 hmem), lookup_reverse_eq_none_iff.2 hmem]

end Fields

/-- **Inserting fields one after the other settles them.** -/
theorem Record.fields_ofList (fs : List (Text × Text)) : (ofList fs).fields = Fields.settled fs := by
  refine Fields.ext_of_lookup (ofList fs).nodup ?_ fun name => ?_
  · rw [Fields.map_fst_settled]
    exact keys_ofList fs
  · rw [ofList, lookup_insertAll, fields_empty, List.lookup_nil, Option.or_none, Fields.lookup_settled]

/-! ## Filters in turn -/

/-- What the filters of some names make of a value, from left to right. A name that the registry does not have leaves the
value as it is. -/
def Registry.filtered (reg : Registry) (value : Text) (names : List Text) : Text :=
  names.foldl (fun v name => ((reg.get? name).map fun f => f.apply v).getD v) value

theorem Registry.applyChain_eq (reg : Registry) (value : Text) (names : List Text) :
    reg.applyChain value names = reg.filtered value names := by
  rw [applyChain, filtered, funext₂ reg.applyOne_eq]

/-! ## Records from raw values -/

namespace Placeholder

/-- The fields that placeholders set when they are given raw values, in order. -/
def fields (reg : Registry) (ps : List Placeholder) (values : List Text) : List (Text × Text) :=
  ((ps.zip values).filter fun x => x.1.name ≠ Extraction.discard).map fun x => (x.1.name, reg.filtered x.2 x.1.filters)

/-- **The record of raw values:** the names of the placeholders, the discard name apart, each once and where it first comes
up, with what the filters of its last placeholder make of the value of that one. -/
def record (reg : Registry) (ps : List Placeholder) (values : List Text) : Record where
  fields := Fields.settled (fields reg ps values)
  nodup := Fields.nodup_settled _

variable {reg : Registry} {ps qs : List Placeholder} {vs ws : List Text}

/-- The record is made by inserting the fields in order. -/
theorem ofList_fields (reg : Registry) (ps : List Placeholder) (values : List Text) :
    Record.ofList (fields reg ps values) = record reg ps values := Record.ext (Record.fields_ofList _)

theorem fields_cons (reg : Registry) (p : Placeholder) (ps : List Placeholder) (v : Text) (vs : List Text) :
    fields reg (p :: ps) (v :: vs) = if p.name = Extraction.discard then fields reg ps vs
      else (p.name, reg.filtered v p.filters) :: fields reg ps vs := by
  by_cases hd : p.name = Extraction.discard <;> simp [fields, hd]

theorem fields_append (h : ps.length = vs.length) :
    fields reg (ps ++ qs) (vs ++ ws) = fields reg ps vs ++ fields reg qs ws := by
  simp [fields, List.zip_append h]

/-- The fields of placeholders bear their names, the discard name apart. -/
theorem map_fst_fields (reg : Registry) (h : vs.length = ps.length) :
    (fields reg ps vs).map Prod.fst = (ps.map name).filter fun n => n ≠ Extraction.discard := by
  induction ps generalizing vs with
  | nil => rfl
  | cons p ps ih =>
    cases vs with
    | nil => cases h
    | cons v vs =>
      have ht := ih (Nat.succ.inj h)
      rw [fields_cons]
      by_cases hd : p.name = Extraction.discard <;> simp [hd, ht]

/-- The record has the names of the placeholders. -/
theorem keys_record (reg : Registry) (h : vs.length = ps.length) :
    (record reg ps vs).keys = ((ps.map name).filter fun n => n ≠ Extraction.discard).eraseDups := by
  rw [Record.keys, record, Fields.map_fst_settled, map_fst_fields reg h]

/-- The last placeholder of a name sets the field to what its filters make of its raw value. -/
theorem lookup_record (reg : Registry) (h : ps.length = vs.length) (h' : ws.length = qs.length) {p : Placeholder}
    (hd : p.name ≠ Extraction.discard) (hlast : p.name ∉ qs.map name) (v : Text) :
    (record reg (ps ++ p :: qs) (vs ++ v :: ws)).fields.lookup p.name = some (reg.filtered v p.filters) := by
  have hfields : fields reg (ps ++ p :: qs) (vs ++ v :: ws) =
      fields reg ps vs ++ (p.name, reg.filtered v p.filters) :: fields reg qs ws := by
    rw [fields_append h, fields_cons, if_neg hd]
  have hlater : (fields reg qs ws).reverse.lookup p.name = none := by
    rw [Fields.lookup_reverse_eq_none_iff, map_fst_fields reg h']
    intro hmem
    exact hlast (List.mem_filter.1 hmem).1
  rw [record, Fields.lookup_settled, hfields, List.reverse_append, List.reverse_cons, List.lookup_append,
    List.lookup_append, hlater, Fields.lookup_cons, if_pos rfl]
  rfl

end Placeholder

end PageHarvest
