import PageHarvest.Proofs.Completeness

/-!
# One raw value in a record

What a record has of the raw value of one placeholder: nothing if the placeholder bears the discard name, nothing if
one of its name comes later, and otherwise the value that its filters make of it.

- `Record.insert_insertAll_eq_iff`: when two values of a field make the same record.
- `Placeholder.record_modify_eq_iff`: when changing the raw value of one placeholder leaves the record as it is.
-/

namespace PageHarvest

open Extraction (discard)

theorem Record.keys_insertAll_congr {r s : Record} (h : r.keys = s.keys) (fs : List (Text × Text)) :
    (r.insertAll fs).keys = (s.insertAll fs).keys := by
  induction fs generalizing r s with
  | nil => exact h
  | cons f fs ih =>
    rw [insertAll_cons, insertAll_cons]
    refine ih ?_
    rw [keys_insert, keys_insert, h]

/-- Two values that a field is given in turn make the same record exactly if they are the same, or if the field is
given another one later. -/
theorem Record.insert_insertAll_eq_iff (r : Record) (name a b : Text) (fs : List (Text × Text)) :
    (r.insert name a).insertAll fs = (r.insert name b).insertAll fs ↔ name ∈ fs.map Prod.fst ∨ a = b := by
  have hlast : fs.reverse.lookup name = none ↔ name ∉ fs.map Prod.fst := Fields.lookup_reverse_eq_none_iff
  constructor
  · intro h
    by_contra hn
    obtain ⟨hname, hab⟩ := not_or.1 hn
    have hfield := congrArg (fun r => r.fields.lookup name) h
    simp only [lookup_insertAll, hlast.2 hname, fields_insert, Fields.lookup_set, if_true, Option.none_or] at hfield
    exact hab (Option.some.inj hfield)
  · rintro (hname | rfl)
    · have hkeys : (r.insert name a).keys = (r.insert name b).keys := by rw [keys_insert, keys_insert]
      refine Record.ext (Fields.ext_of_lookup (Record.nodup _) (keys_insertAll_congr hkeys fs) fun n => ?_)
      rw [lookup_insertAll, lookup_insertAll, fields_insert, fields_insert, Fields.lookup_set, Fields.lookup_set]
      by_cases hn : n = name
      · subst hn
        obtain ⟨v, hv⟩ := Option.ne_none_iff_exists'.1 (mt hlast.1 (not_not.2 hname))
        rw [hv, Option.some_or, Option.some_or]
      · rw [if_neg hn, if_neg hn]
    · rfl

namespace Placeholder

/-- It does not matter whether a placeholder is given one value or another: its values are not recorded, or a later
one of its name replaces them, or its filters make the same of both. -/
def Indifferent (reg : Registry) (p : Placeholder) (later : List Placeholder) (v v' : Text) : Prop :=
  p.name = discard ∨ p.name ∈ later.map name ∨ reg.filtered v p.filters = reg.filtered v' p.filters

theorem insertAll_fields_cons (reg : Registry) (p : Placeholder) (ps : List Placeholder) (v : Text)
    (values : List Text) (r : Record) : r.insertAll (fields reg (p :: ps) (v :: values)) =
      (if p.name = discard then r else r.insert p.name (reg.filtered v p.filters)).insertAll
        (fields reg ps values) := by
  rw [fields_cons]
  by_cases hd : p.name = discard
  · rw [if_pos hd, if_pos hd]
  · rw [if_neg hd, if_neg hd, Record.insertAll_cons]

theorem insertAll_modify_eq_iff (reg : Registry) (f : Text → Text) {ps : List Placeholder} {values : List Text}
    (h : values.length = ps.length) (i : Nat) (r : Record) :
    r.insertAll (fields reg ps (values.modify i f)) = r.insertAll (fields reg ps values) ↔
      ∀ p v, ps[i]? = some p → values[i]? = some v → Indifferent reg p (ps.drop (i + 1)) (f v) v := by
  induction ps generalizing values i r with
  | nil =>
    rw [List.length_nil, List.length_eq_zero_iff] at h
    subst h
    simp
  | cons p ps ih =>
    cases values with
    | nil => cases h
    | cons v values =>
      have hlen : values.length = ps.length := Nat.succ.inj h
      cases i with
      | zero =>
        have hhere : (∀ q w, (p :: ps)[0]? = some q → (v :: values)[0]? = some w →
            Indifferent reg q ((p :: ps).drop (0 + 1)) (f w) w) ↔ Indifferent reg p ps (f v) v := by simp
        rw [List.modify_zero_cons, insertAll_fields_cons, insertAll_fields_cons, hhere]
        by_cases hd : p.name = discard
        · simp [hd, Indifferent]
        · have hnames : p.name ∈ (fields reg ps values).map Prod.fst ↔ p.name ∈ ps.map name := by
            rw [map_fst_fields reg hlen, List.mem_filter]
            simp [hd]
          rw [if_neg hd, if_neg hd, Record.insert_insertAll_eq_iff, hnames]
          simp [Indifferent, hd]
      | succ i =>
        rw [List.modify_succ_cons, insertAll_fields_cons, insertAll_fields_cons, ih hlen]
        simp

/-- Changing the raw value of one placeholder leaves the record as it is exactly if it does not matter there. -/
theorem record_modify_eq_iff (reg : Registry) (f : Text → Text) {ps : List Placeholder} {values : List Text}
    (h : values.length = ps.length) (i : Nat) :
    record reg ps (values.modify i f) = record reg ps values ↔
      ∀ p v, ps[i]? = some p → values[i]? = some v → Indifferent reg p (ps.drop (i + 1)) (f v) v := by
  rw [← ofList_fields, ← ofList_fields]
  exact insertAll_modify_eq_iff reg f h i Record.empty

end Placeholder

end PageHarvest
