import PageHarvest.Page.Format
import PageHarvest.Proofs.Completeness
import PageHarvest.Proofs.PrefixFree
import PageHarvest.Proofs.SpacedTemplate

/-!
# Pages as text can be read back

The text format has no escapes: a field is a line, and an empty line ends a record. It can be read back all the same, if
the names are those of placeholders and no value holds a newline. Then the first space of a line is the one behind the
name, whatever colons there are, and no field is an empty line.

- `oneLine_of_mem_extract`: what a template finds is of this kind, newlines in values apart.
- `prefixFree_fieldLine`, `prefixFree_recordLines`: lines and records show where they end.
- `present_text_eq_iff`: pages with one printed text have the same records.
-/

namespace PageHarvest.OutputFormat

open Text (isSpace)

/-- A field that a line can show: its name is not empty and holds no white space, and its value holds no newline. -/
structure OneLine (f : Text × Text) : Prop where
  name_ne_nil : f.1 ≠ []
  name_space : ∀ c ∈ f.1, isSpace c = false
  value : '\n' ∉ f.2

theorem oneLine_iff {f : Text × Text} :
    OneLine f ↔ f.1 ≠ [] ∧ (f.1.all fun c => !isSpace c) = true ∧ '\n' ∉ f.2 := by
  simp only [List.all_eq_true, Bool.not_eq_true']
  exact ⟨fun h => ⟨h.name_ne_nil, h.name_space, h.value⟩, fun h => ⟨h.1, h.2.1, h.2.2⟩⟩

instance (f : Text × Text) : Decidable (OneLine f) := decidable_of_iff _ oneLine_iff.symm

theorem OneLine.not_mem_name {f : Text × Text} (hf : OneLine f) {c : Char} (hc : isSpace c = true) : c ∉ f.1 := by
  intro hmem
  rw [hf.name_space c hmem] at hc
  cases hc

/-- What an accepted template finds fits on lines, unless a newline is found in a value: the names are those of its
placeholders. -/
theorem oneLine_of_mem_extract {source : Text} {t : Template} (h : Template.parse source = .ok t) {reg : Registry}
    {content : Text} {r : Record} (hr : r ∈ extract t reg content) {f : Text × Text} (hf : f ∈ r.fields)
    (hv : '\n' ∉ f.2) : OneLine f := by
  have hs : t.segments ≠ [] := by
    intro hs
    rw [extract_eq_nil h hs] at hr
    cases hr
  rw [extract_eq_passes h hs] at hr
  obtain ⟨values, hvalues, rfl⟩ := List.mem_map.1 hr
  have hlen : values.length = t.placeholders.length := by
    rw [Segment.length_of_mem_passes hvalues, Template.placeholders_eq_segments h]
  have hkey : f.1 ∈ (Placeholder.record reg t.placeholders values).keys := List.mem_map_of_mem hf
  rw [Placeholder.keys_record reg hlen, List.mem_eraseDups, ← t.variableNames_eq] at hkey
  obtain ⟨x, hx, hn⟩ := List.mem_map.1 (List.mem_filter.1 hkey).1
  obtain ⟨hmem, hk⟩ := List.mem_filter.1 hx
  have hname : IsName f.1 := hn ▸ (Template.legible_of_parse h).name x hmem (.inl (of_decide_eq_true hk))
  exact ⟨hname.ne_nil, hname.space, hv⟩

/-- A line ends its name at the first space, and its value at the first newline. -/
theorem prefixFree_fieldLine : PrefixFree OneLine fieldLine := by
  have hname : PrefixFree (fun n : Text => ' ' ∉ n) fun n => n ++ [':'] ++ [' '] :=
    (prefixFree_until ' ').comp (· ++ [':']) (fun n hn => by simpa using hn)
      fun _ _ _ _ he => List.append_cancel_right he
  have hline : PrefixFree (fun f : Text × Text => ' ' ∉ f.1 ∧ '\n' ∉ f.2)
      fun f => f.1 ++ [':'] ++ [' '] ++ (f.2 ++ ['\n']) := hname.append (prefixFree_until '\n')
  have hwrite : fieldLine = fun f => f.1 ++ [':'] ++ [' '] ++ (f.2 ++ ['\n']) := by
    funext f
    simp [fieldLine]
  rw [hwrite]
  exact hline.mono fun f hf => ⟨hf.not_mem_name (by decide), hf.value⟩

/-- A line is not empty. -/
theorem exists_fieldLine_cons (f : Text × Text) (hf : OneLine f) : ∃ c x, fieldLine f = c :: x ∧ c ≠ '\n' := by
  obtain ⟨c, n, hn⟩ := List.exists_cons_of_ne_nil hf.name_ne_nil
  refine ⟨c, n ++ [':', ' '] ++ f.2 ++ ['\n'], by simp [fieldLine, hn], ?_⟩
  rintro rfl
  exact hf.not_mem_name (by decide) (hn ▸ List.mem_cons_self)

/-- A record ends at the first empty line. -/
theorem prefixFree_recordLines : PrefixFree (fun r : Record => ∀ f ∈ r.fields, OneLine f) recordLines :=
  (prefixFree_fieldLine.flatMap_append exists_fieldLine_cons).comp Record.fields (fun _ hr => hr)
    fun _ _ _ _ he => Record.ext he

/-- **Text output can be read back.** Two pages whose fields fit on lines are printed alike as text if and only if they
have the same records, each with the same fields in the same order. -/
theorem present_text_eq_iff {p q : Page} (hp : ∀ r ∈ p.records, ∀ f ∈ r.fields, OneLine f)
    (hq : ∀ r ∈ q.records, ∀ f ∈ r.fields, OneLine f) :
    present .text p = present .text q ↔ p.records.map Record.fields = q.records.map Record.fields := by
  rw [List.map_inj_right fun _ _ => Record.ext]
  constructor
  · intro h
    refine prefixFree_recordLines.eq_of_flatMap_eq (fun r _ => ?_) hp hq h
    simp [recordLines]
  · intro h
    rw [present, present, h]

/-- The colon behind a name, and the one at the beginning of a value. -/
theorem present_text_eq_iff_colons :
    ∃ p q : Page, (∀ r ∈ p.records, ∀ f ∈ r.fields, OneLine f) ∧ (∀ r ∈ q.records, ∀ f ∈ r.fields, OneLine f) ∧
      p.records.map Record.fields = [[("a:".toList, "b".toList)], []] ∧
      q.records.map Record.fields = [[("a".toList, ": b".toList)], []] ∧ present .text p ≠ present .text q := by
  have hp : ∀ r ∈ [Record.ofList [("a:".toList, "b".toList)], Record.empty], ∀ f ∈ r.fields, OneLine f := by
    decide
  have hq : ∀ r ∈ [Record.ofList [("a".toList, ": b".toList)], Record.empty], ∀ f ∈ r.fields, OneLine f := by
    decide
  refine ⟨⟨[], 0, _⟩, ⟨[], 0, _⟩, hp, hq, by decide, by decide, ?_⟩
  intro h
  exact absurd ((present_text_eq_iff hp hq).1 h) (by decide)

end PageHarvest.OutputFormat
