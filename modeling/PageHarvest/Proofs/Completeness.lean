import PageHarvest.Proofs.Simulation

/-!
# Complete records

A record of a template has a field for every name in it and no other, the discard name apart. A pass finds a value for
each placeholder (`Segment.length_of_mem_passes`), so no field is left out, and the fields stand in the order in which
their names first come up.

- `Template.variableNames_eq`: the names in a template are those of its placeholders.
- `keys_of_mem_extract`: the keys of all records of a template.
-/

namespace PageHarvest

open Extraction (discard)

/-- The names among tokens are those of their placeholders. -/
theorem Template.literals_variableName (ts : List Token) :
    literals .variableName ts = (placeholdersOf ts).map Placeholder.name := by
  induction ts with
  | nil => rfl
  | cons x ts ih =>
    rw [placeholdersOf]
    cases hk : x.kind <;> simpa [literals, hk] using ih

theorem Template.variableNames_eq (t : Template) : t.variableNames = t.placeholders.map Placeholder.name :=
  literals_variableName t.tokens

/-- **Records are complete.** Each record of an accepted template has as keys the names in the template, each of them
once and in the order in which they first come up, without the discard name. -/
theorem keys_of_mem_extract {source : Text} {t : Template} (h : Template.parse source = .ok t) (reg : Registry)
    (content : Text) {r : Record} (hr : r ∈ extract t reg content) :
    r.keys = (t.variableNames.filter fun n => n ≠ discard).eraseDups ∧
      ∀ name, name ∈ r.keys ↔ name ∈ t.variableNames ∧ name ≠ discard := by
  have hs : t.segments ≠ [] := by
    intro hs
    rw [extract_eq_nil h hs] at hr
    cases hr
  rw [extract_eq_passes h hs] at hr
  obtain ⟨values, hv, rfl⟩ := List.mem_map.1 hr
  have hlen : values.length = t.placeholders.length := by
    rw [Segment.length_of_mem_passes hv, Template.placeholders_eq_segments h]
  have hkeys : (Placeholder.record reg t.placeholders values).keys =
      (t.variableNames.filter fun n => n ≠ discard).eraseDups := by
    rw [Placeholder.keys_record reg hlen, t.variableNames_eq]
  refine ⟨hkeys, fun name => ?_⟩
  rw [hkeys, List.mem_eraseDups, List.mem_filter, decide_eq_true_iff]

/-- A name that comes up twice, and a value that is discarded. -/
theorem keys_of_mem_extract_repeated :
    ∃ t r, Template.parse "\x7b\x7bb\x7d\x7d,\x7b\x7b_\x7d\x7d,\x7b\x7ba\x7d\x7d,\x7b\x7bb\x7d\x7d;".toList = .ok t ∧
      r ∈ extract t Registry.standard "1,2,3,4;".toList ∧ r.keys = [['b'], ['a']] := by
  have hp : Template.parse "\x7b\x7bb\x7d\x7d,\x7b\x7b_\x7d\x7d,\x7b\x7ba\x7d\x7d,\x7b\x7bb\x7d\x7d;".toList =
      .ok ⟨Layout.tokens ⟨[], [(⟨['b'], []⟩, [',']), (⟨['_'], []⟩, [',']), (⟨['a'], []⟩, [',']),
        (⟨['b'], []⟩, [';'])]⟩⟩ := by decide +kernel
  have hr : Record.ofList [(['b'], ['4']), (['a'], ['3'])] ∈ extract ⟨Layout.tokens ⟨[], [(⟨['b'], []⟩, [',']),
      (⟨['_'], []⟩, [',']), (⟨['a'], []⟩, [',']), (⟨['b'], []⟩, [';'])]⟩⟩ Registry.standard "1,2,3,4;".toList := by
    rw [extract_eq_passes hp (by decide)]
    decide +kernel
  exact ⟨_, _, hp, hr, (keys_of_mem_extract hp _ _ hr).1.trans (by decide +kernel)⟩

end PageHarvest
