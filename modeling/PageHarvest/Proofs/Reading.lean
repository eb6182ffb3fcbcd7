import PageHarvest.Proofs.Boundary
import PageHarvest.Proofs.Simulation

/-!
# The leftmost reading

What the records of a template are, without a machine and without a search. A place is the number of characters in front
of it. A pass takes the first place for each literal (`FirstPlace`), the next literal being looked for behind what
the last one spans; what lies in between are the values (`Pass`). A reading is a sequence of passes that goes on as
long as there is one (`Reading`).

- `Literal.spans_iff`: what a literal spans is what it is matched with.
- `find?_drop_iff`: the search for a literal finds its first place.
- `pass_iff`: the passes of a reading are the passes of the search.
- `extract_eq_iff_reading`: the records of an accepted template are those of its leftmost reading.
-/

namespace PageHarvest

open Text (ink)

namespace Literal

/-- The literal spans the first `k` characters of the content: it consumes their bytes. -/
structure Spans (literal content : Text) (k : Nat) : Prop where
  le : k ≤ content.length
  consumed : consumed? literal content = some (Text.size (content.take k))

theorem consumed?_eq_some_iff {literal content : Text} {b : Nat} :
    consumed? literal content = some b ↔ ∃ rest, after? literal content = some rest ∧ content.RestAt b rest := by
  rw [consumed?, Option.map_eq_some_iff]
  refine exists_congr fun rest => and_congr_right fun h => ?_
  obtain ⟨front, rfl⟩ := after?_suffix h
  constructor
  · rintro rfl
    exact ⟨front, rfl, by simp⟩
  · intro hat
    have hsize := hat.size_eq
    omega

/-- What a literal spans is what it is matched with. -/
theorem spans_iff {literal content : Text} {k : Nat} :
    Spans literal content k ↔ k ≤ content.length ∧ after? literal content = some (content.drop k) := by
  have hat : content.RestAt (Text.size (content.take k)) (content.drop k) :=
    ⟨content.take k, (List.take_append_drop k content).symm, rfl⟩
  constructor
  · rintro ⟨hk, h⟩
    obtain ⟨rest, hr, hrest⟩ := consumed?_eq_some_iff.1 h
    exact ⟨hk, by rw [hr, hrest.eq hat]⟩
  · rintro ⟨hk, h⟩
    exact ⟨hk, consumed?_eq_some_iff.2 ⟨_, h, hat⟩⟩

theorem exists_spans {literal content rest : Text} (h : after? literal content = some rest) :
    ∃ k, Spans literal content k ∧ rest = content.drop k := by
  obtain ⟨front, rfl⟩ := after?_suffix h
  have hdrop : (front ++ rest).drop front.length = rest := List.drop_left
  exact ⟨front.length, spans_iff.2 ⟨by simp, hdrop.symm ▸ h⟩, hdrop.symm⟩

end Literal

/-! ## Places -/

/-- The place `p` is the first one from `o` on at which the literal stands, white space apart. -/
structure FirstPlace (content literal : Text) (o p : Nat) : Prop where
  le : o ≤ p
  lt : p < content.length
  stands : ink literal <+: ink (content.drop p)
  first : ∀ q, o ≤ q → q < p → ¬ ink literal <+: ink (content.drop q)

/-- One pass over segments from the place `o` on: the raw values of their placeholders, and the place `e` behind it. -/
inductive Pass (content : Text) : List Segment → Nat → List Text → Nat → Prop
  | nil {o : Nat} : Pass content [] o [] o
  | cons {s : Segment} {ss : List Segment} {o p k e : Nat} {values : List Text} : FirstPlace content s.literal o p →
      Literal.Spans s.literal (content.drop p) k → Pass content ss (p + k) values e →
      Pass content (s :: ss) o (s.value ((content.drop o).take (p - o)) ++ values) e

/-- **The leftmost reading** of a content from the place `o` on: a record for each pass, as long as there is one. A pass
begins where the one before has ended, or one character on if that one has covered nothing. -/
inductive Reading (t : Template) (reg : Registry) (content : Text) : Nat → List Record → Prop
  | done {o : Nat} : (∀ values e, ¬ Pass content t.segments o values e) → Reading t reg content o []
  | pass {o e : Nat} {values : List Text} {records : List Record} : Pass content t.segments o values e →
      Reading t reg content (if e = o then o + 1 else e) records →
      Reading t reg content o (Placeholder.record reg t.placeholders values :: records)

section Places

variable {content : Text}

/-- The search for a literal finds its first place. -/
theorem find?_drop_iff {literal gap rest : Text} {o : Nat} :
    Literal.find? literal (content.drop o) = some (gap, rest) ↔ ∃ p, FirstPlace content literal o p ∧
      gap = (content.drop o).take (p - o) ∧ Literal.after? literal (content.drop p) = some rest := by
  rw [Literal.find?_eq_some_iff]
  constructor
  · rintro ⟨m, hm, hne, hr, hf⟩
    have hlen : content.length - o = gap.length + m.length := by
      rw [← List.length_drop, hm, List.length_append]
    have hpos := List.length_pos_iff.2 hne
    have hdrop (j : Nat) (hj : j ≤ gap.length) : content.drop (o + j) = gap.drop j ++ m := by
      rw [← List.drop_drop, hm, List.drop_append_of_le_length hj]
    have hp : content.drop (o + gap.length) = m := by simp [hdrop]
    refine ⟨o + gap.length, ⟨by omega, by omega, ?_, fun q hq hlt => ?_⟩, by simp [hm], hp.symm ▸ hr⟩
    · rw [hp, ← Literal.after?_isSome_iff, hr]
      rfl
    · obtain ⟨j, rfl⟩ := Nat.exists_eq_add_of_le hq
      have hj : j < gap.length := by omega
      rw [hdrop j hj.le, ← Literal.after?_eq_none_iff]
      exact hf _ (List.drop_suffix _ _) (by simp; omega)
  · rintro ⟨p, ⟨hle, hlt, -, hf⟩, rfl, hr⟩
    have hp : content.drop o = (content.drop o).take (p - o) ++ content.drop p := by
      conv_lhs => rw [← List.take_append_drop (p - o) (content.drop o), List.drop_drop, Nat.add_sub_cancel' hle]
    refine ⟨content.drop p, hp, by simp; omega, hr, fun g hg hne => ?_⟩
    obtain ⟨front, hfront⟩ := hg
    have hq : content.drop (o + front.length) = g ++ content.drop p := by
      rw [← List.drop_drop, hp, ← hfront, List.append_assoc, List.drop_left]
    have hlen := congrArg List.length hfront
    simp only [List.length_append, List.length_take] at hlen
    have := List.length_pos_iff.2 hne
    rw [← hq, Literal.after?_eq_none_iff]
    exact hf _ (by omega) (by omega)

/-! ## Passes -/

/-- **The passes of a reading are the passes of the search.** -/
theorem pass_iff {ss : List Segment} {values : List Text} {o e : Nat} (ho : o ≤ content.length) :
    Pass content ss o values e ↔
      e ≤ content.length ∧ Segment.pass? ss (content.drop o) = some (values, content.drop e) := by
  induction ss generalizing o values with
  | nil =>
    constructor
    · rintro ⟨⟩
      exact ⟨ho, rfl⟩
    · rintro ⟨he, h⟩
      obtain ⟨rfl, h'⟩ := Prod.mk.inj (Option.some.inj h)
      rw [List.drop_eq_drop_iff, Nat.min_eq_left ho, Nat.min_eq_left he] at h'
      rw [h']
      exact .nil
  | cons s ss ih =>
    constructor
    · rintro (_ | ⟨hp, hk, hpass⟩)
      rename_i p k vs
      obtain ⟨hk, hr⟩ := Literal.spans_iff.1 hk
      rw [List.drop_drop] at hr
      rw [List.length_drop] at hk
      have hlt := hp.lt
      obtain ⟨he, h⟩ := (ih (by omega)).1 hpass
      refine ⟨he, ?_⟩
      rw [Segment.pass?_cons (find?_drop_iff.2 ⟨p, hp, rfl, hr⟩), h]
      rfl
    · rintro ⟨he, h⟩
      obtain ⟨gap, behind, vs, hf, hpass, rfl⟩ := Segment.pass?_cons_eq_some_iff.1 h
      obtain ⟨p, hp, rfl, hr⟩ := find?_drop_iff.1 hf
      obtain ⟨k, hk, rfl⟩ := Literal.exists_spans hr
      have hle := hk.le
      rw [List.length_drop] at hle
      have hlt := hp.lt
      rw [List.drop_drop] at hpass
      exact .cons hp hk ((ih (by omega)).2 ⟨he, hpass⟩)

/-- Where the search finds a pass, there is one. -/
theorem Pass.of_pass? {ss : List Segment} {values : List Text} {rest : Text} {o : Nat} (ho : o ≤ content.length)
    (h : Segment.pass? ss (content.drop o) = some (values, rest)) :
    ∃ e, e ≤ content.length ∧ rest = content.drop e ∧ Pass content ss o values e := by
  obtain ⟨front, hfront⟩ := (Segment.suffix_of_pass? h).trans (List.drop_suffix o content)
  have he : content.drop front.length = rest := by rw [← hfront, List.drop_left]
  have hle : front.length ≤ content.length := by
    rw [← hfront, List.length_append]
    omega
  exact ⟨front.length, hle, he.symm, (pass_iff ho).2 ⟨hle, he.symm ▸ h⟩⟩

/-- A pass over segments begins in front of the end of the content. -/
theorem Pass.lt_length {ss : List Segment} {values : List Text} {o e : Nat} (h : Pass content ss o values e)
    (hs : ss ≠ []) : o < content.length := by
  cases h with
  | nil => exact absurd rfl hs
  | cons hp => exact Nat.lt_of_le_of_lt hp.le hp.lt

theorem resume_drop {o e : Nat} (ho : o ≤ content.length) (he : e ≤ content.length) :
    Segment.resume (content.drop o) (content.drop e) = content.drop (if e = o then o + 1 else e) := by
  have hlen : (content.drop e).length = (content.drop o).length ↔ e = o := by
    rw [List.length_drop, List.length_drop]
    omega
  rw [Segment.resume]
  by_cases h : e = o
  · rw [if_pos (hlen.2 h), if_pos h, List.drop_drop, h]
  · rw [if_neg (mt hlen.1 h), if_neg h]

end Places

/-! ## Readings -/

section Readings

variable {t : Template} {reg : Registry} {content : Text} (hs : t.segments ≠ [])
include hs

/-- The records of a reading are those of the passes behind the place where it begins. -/
theorem Reading.eq_passes {o : Nat} {records : List Record} (h : Reading t reg content o records)
    (ho : o ≤ content.length) :
    records = (Segment.passes t.segments (content.drop o)).map (Placeholder.record reg t.placeholders) := by
  induction h with
  | @done o hd =>
    have hn : Segment.pass? t.segments (content.drop o) = none := by
      refine Option.eq_none_iff_forall_ne_some.2 fun ⟨values, rest⟩ hp => ?_
      obtain ⟨e, -, -, hpass⟩ := Pass.of_pass? ho hp
      exact hd _ _ hpass
    rw [Segment.passes_of_pass?_eq_none hn, List.map_nil]
  | @pass o e values records hp _ ih =>
    obtain ⟨he, hv⟩ := (pass_iff ho).1 hp
    have hlt := hp.lt_length hs
    rw [Segment.passes_of_pass? hs hv, resume_drop ho he, List.map_cons, ← ih (by split <;> omega)]

/-- There is a reading from every place on. -/
theorem Reading.of_passes {o : Nat} (ho : o ≤ content.length) : Reading t reg content o
    ((Segment.passes t.segments (content.drop o)).map (Placeholder.record reg t.placeholders)) := by
  cases hp : Segment.pass? t.segments (content.drop o) with
  | none =>
    rw [Segment.passes_of_pass?_eq_none hp]
    refine .done fun values e hpass => ?_
    cases hp.symm.trans ((pass_iff ho).1 hpass).2
  | some pass =>
    obtain ⟨values, rest⟩ := pass
    obtain ⟨e, he, rfl, hpass⟩ := Pass.of_pass? ho hp
    have hlt := hpass.lt_length hs
    have hle : o ≤ e := by
      have := (Segment.suffix_of_pass? hp).length_le
      simp only [List.length_drop] at this
      omega
    rw [Segment.passes_of_pass? hs hp, resume_drop ho he, List.map_cons]
    exact .pass hpass (Reading.of_passes (by split <;> omega))
termination_by content.length - o
decreasing_by split <;> omega

end Readings

/-- **The records of an accepted template are those of the leftmost reading of the content.** -/
theorem extract_eq_iff_reading {source : Text} {t : Template} (h : Template.parse source = .ok t)
    (hl : ∃ x ∈ t.tokens, x.kind = .text) (reg : Registry) (content : Text) (records : List Record) :
    extract t reg content = records ↔ Reading t reg content 0 records := by
  have hs := Template.segments_ne_nil hl
  have hp := extract_eq_passes h hs reg content
  constructor
  · rintro rfl
    rw [hp]
    exact Reading.of_passes hs (Nat.zero_le _)
  · intro hr
    rw [hp, hr.eq_passes hs (Nat.zero_le _), List.drop_zero]

/-- The first name comes up again: it keeps its place, and takes the value that the filter of its last placeholder makes. A
literal spans white space that it does not have. -/
theorem extract_eq_iff_reading_repeated :
    ∃ t r, Template.parse "<\x7b\x7ba|trim\x7d\x7d/>\x7b\x7bb\x7d\x7d;\x7b\x7ba|uppercase\x7d\x7d.".toList = .ok t ∧
      (∃ x ∈ t.tokens, x.kind = .text) ∧ Reading t Registry.standard "..< x/ >y; z.".toList 0 [r] ∧
      extract t Registry.standard "..< x/ >y; z.".toList = [r] ∧
      r.fields = [(['a'], " Z".toList), (['b'], ['y'])] := by
  have hp : Template.parse "<\x7b\x7ba|trim\x7d\x7d/>\x7b\x7bb\x7d\x7d;\x7b\x7ba|uppercase\x7d\x7d.".toList =
      .ok ⟨Layout.tokens ⟨['<'], [(⟨['a'], ["trim".toList]⟩, "/>".toList), (⟨['b'], []⟩, [';']),
        (⟨['a'], ["uppercase".toList]⟩, ['.'])]⟩⟩ := by decide +kernel
  have hl : ∃ x ∈ Layout.tokens ⟨['<'], [(⟨['a'], ["trim".toList]⟩, "/>".toList), (⟨['b'], []⟩, [';']),
      (⟨['a'], ["uppercase".toList]⟩, ['.'])]⟩, x.kind = .text := by decide
  have hpass : Pass "..< x/ >y; z.".toList [⟨none, ['<']⟩, ⟨some ⟨['a'], ["trim".toList]⟩, "/>".toList⟩,
      ⟨some ⟨['b'], []⟩, [';']⟩, ⟨some ⟨['a'], ["uppercase".toList]⟩, ['.']⟩] 0 [" x".toList, ['y'], " z".toList] 13 :=
    .cons (p := 2) (k := 1) ⟨by decide, by decide, by decide, by decide⟩ ⟨by decide, by decide +kernel⟩
      (.cons (p := 5) (k := 3) ⟨by decide, by decide, by decide, by decide⟩ ⟨by decide, by decide +kernel⟩
        (.cons (p := 9) (k := 1) ⟨by decide, by decide, by decide, by decide⟩ ⟨by decide, by decide +kernel⟩
          (.cons (p := 12) (k := 1) ⟨by decide, by decide, by decide, by decide⟩ ⟨by decide, by decide +kernel⟩ .nil)))
  have hreading : Reading ⟨Layout.tokens ⟨['<'], [(⟨['a'], ["trim".toList]⟩, "/>".toList), (⟨['b'], []⟩, [';']),
      (⟨['a'], ["uppercase".toList]⟩, ['.'])]⟩⟩ Registry.standard "..< x/ >y; z.".toList 0 [_] :=
    .pass (e := 13) hpass (.done fun values e h => absurd (h.lt_length (List.cons_ne_nil _ _)) (by decide))
  exact ⟨_, _, hp, hl, hreading, (extract_eq_iff_reading hp hl _ _ _).2 hreading, by decide +kernel⟩

end PageHarvest
