import PageHarvest.Text.Basic

/-!
# Records

A `Record` is what one match of a definition yields: field names with their values, in the order in which the names
first came up. A name that comes up again keeps its place and takes the new value, so no name occurs twice.

- `fields_insert`: what `insert` does to the fields.
- `keys_insert`: `insert` appends the name unless it is there.
- `lookup_insertAll`: a name that is set several times has the last of its values.
-/

namespace PageHarvest

namespace Fields

/-- Sets the value of a name in a list of fields: in its place, or at the end if it is new. -/
def set (name value : Text) : List (Text × Text) → List (Text × Text)
  | [] => [(name, value)]
  | f :: fs => if f.1 = name then (name, value) :: fs else f :: set name value fs

theorem map_fst_set (name value : Text) (fs : List (Text × Text)) :
    (set name value fs).map Prod.fst =
      if name ∈ fs.map Prod.fst then fs.map Prod.fst else fs.map Prod.fst ++ [name] := by
  induction fs with
  | nil => simp [set]
  | cons f fs ih =>
    by_cases h : f.1 = name
    · simp [set, h]
    · have h' : ¬ name = f.1 := fun e => h e.symm
      simp only [set, if_neg h, List.map_cons, ih, List.mem_cons, h', false_or]
      split <;> simp

theorem nodup_set (name value : Text) {fs : List (Text × Text)} (h : (fs.map Prod.fst).Nodup) :
    ((set name value fs).map Prod.fst).Nodup := by
  rw [map_fst_set]
  split
  · exact h
  · rename_i hn
    refine List.nodup_append.2 ⟨h, by simp, ?_⟩
    intro a ha b hb e
    rw [List.mem_singleton] at hb
    exact hn (hb ▸ e ▸ ha)

theorem lookup_cons (f : Text × Text) (fs : List (Text × Text)) (n : Text) :
    (f :: fs).lookup n = if n = f.1 then some f.2 else fs.lookup n := by
  rw [List.lookup_cons]
  by_cases h : n = f.1
  · rw [if_pos h, beq_iff_eq.2 h]
  · rw [if_neg h, beq_eq_false_iff_ne.2 h]

theorem lookup_set (name value n : Text) (fs : List (Text × Text)) :
    (set name value fs).lookup n = if n = name then some value else fs.lookup n := by
  induction fs with
  | nil => rw [set, lookup_cons]
  | cons f fs ih =>
    rw [set, lookup_cons f]
    by_cases hf : f.1 = name
    · rw [if_pos hf, lookup_cons, hf]
      by_cases h : n = name <;> simp [h]
    · rw [if_neg hf, lookup_cons, ih]
      by_cases h : n = f.1
      · have hn : ¬ n = name := fun e => hf (h.symm.trans e)
        rw [if_pos h, if_neg hn, if_pos h]
      · rw [if_neg h, if_neg h]

end Fields

/-- Named values in order, each name once. -/
structure Record where
  fields : List (Text × Text)
  nodup : (fields.map Prod.fst).Nodup
  deriving DecidableEq

namespace Record

/-- The record without fields. -/
def empty : Record := ⟨[], List.nodup_nil⟩

instance : Inhabited Record := ⟨empty⟩

/-- The field names, in order. -/
def keys (r : Record) : List Text := r.fields.map Prod.fst

/-- Sets the value of a field: in its place, or at the end if the name is new. -/
def insert (r : Record) (name value : Text) : Record :=
  ⟨Fields.set name value r.fields, Fields.nodup_set name value r.nodup⟩

/-- Inserts fields one after the other. -/
def insertAll (r : Record) (fs : List (Text × Text)) : Record := fs.foldl (fun r f => r.insert f.1 f.2) r

/-- The record that results from inserting a list of fields in order. -/
def ofList (fs : List (Text × Text)) : Record := empty.insertAll fs

@[ext] theorem ext {r s : Record} (h : r.fields = s.fields) : r = s := by
  cases r; cases s; cases h; rfl

@[simp] theorem fields_empty : empty.fields = [] := rfl

theorem fields_insert (r : Record) (name value : Text) :
    (r.insert name value).fields = Fields.set name value r.fields := rfl

theorem keys_insert (r : Record) (name value : Text) :
    (r.insert name value).keys = if name ∈ r.keys then r.keys else r.keys ++ [name] :=
  Fields.map_fst_set name value r.fields

theorem insertAll_cons (r : Record) (f : Text × Text) (fs : List (Text × Text)) :
    r.insertAll (f :: fs) = (r.insert f.1 f.2).insertAll fs := rfl

theorem insertAll_append (r : Record) (fs gs : List (Text × Text)) :
    r.insertAll (fs ++ gs) = (r.insertAll fs).insertAll gs := List.foldl_append ..

/-- A name that is set several times has the last of its values, and a name that is not set has the one that it had. -/
theorem lookup_insertAll (r : Record) (fs : List (Text × Text)) (name : Text) :
    (r.insertAll fs).fields.lookup name = (fs.reverse.lookup name).or (r.fields.lookup name) := by
  induction fs generalizing r with
  | nil => rfl
  | cons f fs ih =>
    rw [insertAll_cons, ih, List.reverse_cons, List.lookup_append, fields_insert, Fields.lookup_set,
      Fields.lookup_cons, List.lookup_nil, Option.or_assoc]
    by_cases hn : name = f.1 <;> simp [hn]

end Record

end PageHarvest
