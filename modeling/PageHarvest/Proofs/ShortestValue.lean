import PageHarvest.Proofs.OwnFilters
import PageHarvest.Proofs.RawValue
import PageHarvest.Proofs.Spacing

/-!
# Values are as short as they can be

The literal behind a value is looked for at one place after the other. So the value does not hold the ink of the literal,
and there is no white space at its end, since in front of white space the literal would have been found before.

- `Literal.shortest_of_find?`: what lies in front of the first match.
- `exists_shortest_of_mem_extract`: every field holds what filters make of such a value.
- `shortest_of_mem_extract`: without filters the field holds the value itself.
-/

namespace PageHarvest

open Text (isBlank ink)
open Extraction (discard)

/-! ## In front of the first match -/

namespace Literal

/-- A value that the literal behind it has ended as early as it could: there is no white space at its end, and the ink of
the literal is not found in its ink. -/
structure Shortest (literal value : Text) : Prop where
  last : ∀ c, value.getLast? = some c → isBlank c = false
  free : ¬ ink literal <:+: ink value

/-- What lies in front of the first match of a literal with ink. -/
theorem shortest_of_find? {literal content gap rest : Text} (hl : ink literal ≠ [])
    (h : find? literal content = some (gap, rest)) : Shortest literal gap := by
  obtain ⟨m, rfl, -, hr, hfirst⟩ := find?_eq_some_iff.1 h
  constructor
  · intro c hc
    obtain ⟨front, rfl⟩ := List.getLast?_eq_some_iff.1 hc
    have hnone := hfirst [c] (List.suffix_append front [c]) (List.cons_ne_nil c [])
    by_contra hb
    have hblank : ink [c] = [] := Text.ink_cons_of_blank (by simpa using hb) []
    rw [after?_blank_append hl hblank, hr] at hnone
    cases hnone
  · intro hinfix
    obtain ⟨⟨g, rest'⟩, hg⟩ := Option.isSome_iff_exists.1 ((find?_isSome_iff hl).2 hinfix)
    -- the match inside the gap is one of the content as well
    obtain ⟨m', rfl, hm', hr', -⟩ := find?_eq_some_iff.1 hg
    obtain ⟨rest'', hr'', -⟩ := after?_append hr' m
    have hnone := hfirst m' (List.suffix_append g m') hm'
    rw [hr''] at hnone
    cases hnone

end Literal

/-- In a pass, the value in front of a literal with ink is the shortest one. -/
theorem Segment.exists_shortest_of_pass? {ss us : List Segment} {p : Placeholder} {literal content rest : Text}
    {values : List Text} (hl : ink literal ≠ []) (h : pass? (ss ++ ⟨some p, literal⟩ :: us) content = some (values, rest)) :
    ∃ vs v ws, values = vs ++ v :: ws ∧ vs.length = arity ss ∧ ws.length = arity us ∧ Literal.Shortest literal v := by
  obtain ⟨vs, between, ws, hs, hu, rfl⟩ := pass?_segments_append_iff.1 h
  obtain ⟨gap, behind, ws, hf, hp, rfl⟩ := pass?_cons_eq_some_iff.1 hu
  exact ⟨vs, gap, ws, rfl, length_of_pass? hs, length_of_pass? hp, Literal.shortest_of_find? hl hf⟩

/-! ## Records -/

/-- **Every field holds what filters make of a shortest value.** The last placeholder of a name has set the field, from
what lies in front of the first match of the text behind it. -/
theorem exists_shortest_of_mem_extract {source : Text} {t : Template} (h : Template.parse source = .ok t)
    (reg : Registry) (content : Text) {r : Record} (hr : r ∈ extract t reg content) {l : Layout}
    (ht : t.tokens = l.tokens) (hl : ∀ p ∈ l.parts, ink p.2 ≠ []) {front back : List (Placeholder × Text)}
    {p : Placeholder} {x : Text} (hparts : l.parts = front ++ (p, x) :: back) (hd : p.name ≠ discard)
    (hlast : p.name ∉ back.map fun q => q.1.name) :
    ∃ v, Literal.Shortest x v ∧ r.fields.lookup p.name = some (reg.filtered v p.filters) := by
  have hs : t.segments ≠ [] := by simp [Template.segments_of_layout ht hl, hparts]
  have hx : ink x ≠ [] := hl (p, x) (by simp [hparts])
  rw [extract_eq_passes h hs] at hr
  obtain ⟨values, hv, rfl⟩ := List.mem_map.1 hr
  obtain ⟨start, rest, hpass⟩ := Segment.exists_pass?_of_mem_passes hv
  rw [Template.segments_of_layout ht hl, hparts, List.map_append, List.map_cons, ← List.append_assoc] at hpass
  obtain ⟨vs, v, ws, rfl, hvs, hws, hshort⟩ := Segment.exists_shortest_of_pass? hx hpass
  refine ⟨v, hshort, ?_⟩
  rw [Template.placeholders_of_layout ht, hparts, List.map_append, List.map_cons]
  refine Placeholder.lookup_record reg ?_ ?_ hd (by simpa using hlast) v
  · rw [hvs, Segment.arity, List.length_map]
    split <;> simp [List.filterMap_map]
  · rw [hws, Segment.arity, List.length_map]
    simp [List.filterMap_map]

/-- **Captured values are as short as they can be.** A placeholder with a name that is recorded and that no later
placeholder bears, and without filters: behind it comes a literal text, and in every record the field of its name holds
a value that is empty or ends in ink and whose ink does not hold the ink of that text. -/
theorem shortest_of_mem_extract {source : Text} {t : Template} (h : Template.parse source = .ok t) (reg : Registry)
    (content : Text) {r : Record} (hr : r ∈ extract t reg content) {i : Nat} {n : Text}
    (hi : t.tokens[i]? = some ⟨.variableName, n⟩) (hd : n ≠ discard) (hf : t.filtersFor i = [])
    (hlast : n ∉ Template.literals .variableName (t.tokens.drop (i + 1))) : ∃ literal behind value,
      t.tokens.drop (i + 1) = ⟨.rightDelimiter, Token.closing⟩ :: ⟨.text, literal⟩ :: behind ∧
      r.fields.lookup n = some value ∧ (∀ c, value.getLast? = some c → isBlank c = false) ∧
      ¬ ink literal <:+: ink value := by
  obtain ⟨l, ht, hl⟩ := Template.exists_layout_of_parse h
  obtain ⟨hlen, hget⟩ := List.getElem?_eq_some_iff.1 hi
  have hsplit : l.tokens = t.tokens.take i ++ ⟨.variableName, n⟩ :: t.tokens.drop (i + 1) := by
    rw [← hget, ← List.drop_eq_getElem_cons hlen, List.take_append_drop, ht]
  obtain ⟨front, p, x, back, hparts, rfl, hbehind⟩ := Layout.exists_of_name hsplit
  have hfilters : p.filters = [] := by
    rw [← Template.leadingFilters_ofFilters p.filters, ← hbehind]
    exact hf
  have hx : x ≠ [] := Text.ne_nil_of_ink (hl (p, x) (by simp [hparts]))
  rw [hfilters, Token.ofFilters_nil, List.nil_append, Token.ofText_of_ne hx, List.singleton_append] at hbehind
  have hlater : p.name ∉ back.map fun q => q.1.name := by
    have hskip : Template.placeholdersOf (t.tokens.drop (i + 1)) = Template.placeholdersOf (Token.ofParts back) := by
      rw [hbehind]
      rfl
    rwa [Template.literals_variableName, hskip, Template.placeholdersOf_ofParts, List.map_map] at hlast
  obtain ⟨v, hv, hfield⟩ := exists_shortest_of_mem_extract h reg content hr ht hl hparts hd hlater
  rw [hfilters] at hfield
  exact ⟨x, Token.ofParts back, v, hbehind, hfield, hv.last, hv.free⟩

/-- The value holds a beginning of the literal, and the space behind it is not part of it. -/
theorem shortest_of_mem_extract_partial :
    ∃ t r, Template.parse "<b>\x7b\x7ba\x7d\x7d</b>".toList = .ok t ∧
      r ∈ extract t Registry.standard "<b>x< /y </ b>".toList ∧ t.tokens[2]? = some ⟨.variableName, ['a']⟩ ∧
      t.filtersFor 2 = [] ∧ ['a'] ∉ Template.literals .variableName (t.tokens.drop 3) ∧
      r.fields.lookup ['a'] = some "x< /y".toList ∧ (∀ c, "x< /y".toList.getLast? = some c → isBlank c = false) ∧
      ¬ ink "</b>".toList <:+: ink "x< /y".toList := by
  have hp : Template.parse "<b>\x7b\x7ba\x7d\x7d</b>".toList =
      .ok ⟨Layout.tokens ⟨"<b>".toList, [(⟨['a'], []⟩, "</b>".toList)]⟩⟩ := by decide +kernel
  have hr : Record.ofList [(['a'], "x< /y".toList)] ∈ extract
      ⟨Layout.tokens ⟨"<b>".toList, [(⟨['a'], []⟩, "</b>".toList)]⟩⟩ Registry.standard "<b>x< /y </ b>".toList := by
    rw [extract_eq_passes hp (by decide)]
    decide +kernel
  obtain ⟨literal, behind, value, hbehind, hvalue, hlast, hfree⟩ :=
    shortest_of_mem_extract hp _ _ hr (i := 2) (n := ['a']) (by decide) (by decide) (by decide) (by decide)
  cases hbehind
  cases hvalue
  exact ⟨_, _, hp, hr, by decide, by decide, by decide, rfl, hlast, hfree⟩

end PageHarvest
