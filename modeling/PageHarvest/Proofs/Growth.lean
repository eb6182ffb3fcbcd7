import PageHarvest.Proofs.Simulation

/-!
# Growing contents

Content that is added at the end changes none of the records found before. Whatever is found in the shorter content is
found in the longer one too, at the same place: a literal that stands nowhere in front of that place cannot come to stand
there, since the place holds all of its ink already. What is left differs only if nothing was left before, and then the
shorter content holds nothing more to find.

- `find?_append`, `pass?_append`: one literal, and one pass.
- `passes_append`: all passes.
- `extract_append`: the records.
-/

namespace PageHarvest

open Text (ink)

/-- What is left of a longer content: what was left before and the addition, unless nothing was left before. -/
def Extends (more rest rest' : Text) : Prop := rest ≠ [] → rest' = rest ++ more

namespace Literal

/-- A literal that does not stand in front of a match does not come to stand there when the content grows. -/
theorem after?_append_eq_none {literal g m : Text} (hg : after? literal (g ++ m) = none)
    (hm : (after? literal m).isSome) (more : Text) : after? literal (g ++ (m ++ more)) = none := by
  rw [after?_eq_none_iff] at hg ⊢
  have hlen := (after?_isSome_iff.1 hm).length_le
  intro hp
  refine hg (List.prefix_of_prefix_length_le hp ?_ ?_)
  · rw [← List.append_assoc, Text.ink_append (g ++ m)]
    exact List.prefix_append _ _
  · rw [Text.ink_append, List.length_append]
    omega

/-- What is found is found at the same place in a longer content. -/
theorem find?_append {literal content gap rest : Text} (h : find? literal content = some (gap, rest)) (more : Text) :
    ∃ rest', find? literal (content ++ more) = some (gap, rest') ∧ Extends more rest rest' := by
  obtain ⟨m, rfl, hne, hr, hf⟩ := find?_eq_some_iff.1 h
  obtain ⟨rest', hr', hext⟩ := after?_append hr more
  refine ⟨rest', find?_eq_some_iff.2 ⟨m ++ more, by simp, by simp [hne], hr', fun g hg hg' => ?_⟩, hext⟩
  exact after?_append_eq_none (hf g hg hg') (by simp [hr]) more

end Literal

namespace Segment

/-- A pass finds the same values in a longer content. -/
theorem pass?_append {ss : List Segment} {content rest : Text} {values : List Text}
    (h : pass? ss content = some (values, rest)) (more : Text) :
    ∃ rest', pass? ss (content ++ more) = some (values, rest') ∧ Extends more rest rest' := by
  induction ss generalizing content values with
  | nil =>
    cases h
    exact ⟨_, rfl, fun _ => rfl⟩
  | cons s ss ih =>
    obtain ⟨gap, between, vs, hf, hp, rfl⟩ := pass?_cons_eq_some_iff.1 h
    obtain ⟨between', hf', hb⟩ := Literal.find?_append hf more
    have hcons {rest' : Text} (hp' : pass? ss between' = some (vs, rest')) :
        pass? (s :: ss) (content ++ more) = some (s.value gap ++ vs, rest') :=
      pass?_cons_eq_some_iff.2 ⟨gap, between', vs, hf', hp', rfl⟩
    by_cases he : between = []
    · -- the literal has reached the end, so no other literal is left to be found
      cases ss with
      | cons s' ss =>
        rw [he] at hp
        cases hp
      | nil =>
        cases hp
        exact ⟨between', hcons rfl, hb⟩
    · obtain ⟨rest', hp', hext⟩ := ih hp
      exact ⟨rest', hcons (by rw [hb he, hp']), hext⟩

/-- The search goes on at the same place in a longer content. -/
theorem resume_append {content rest : Text} (hr : rest ≠ []) (more : Text) :
    resume (content ++ more) (rest ++ more) = resume content rest ++ more := by
  have hlen : (rest ++ more).length = (content ++ more).length ↔ rest.length = content.length := by
    rw [List.length_append, List.length_append]
    omega
  unfold resume
  by_cases h : rest.length = content.length
  · have hpos := List.length_pos_iff.2 hr
    rw [if_pos (hlen.2 h), if_pos h, List.drop_append_of_le_length hpos]
  · rw [if_neg (mt hlen.1 h), if_neg h]

/-- **The passes over a content are the first ones over a longer content.** -/
theorem passes_append {ss : List Segment} (hs : ss ≠ []) (content more : Text) :
    passes ss content <+: passes ss (content ++ more) := by
  cases h : pass? ss content with
  | none =>
    rw [passes_of_pass?_eq_none h]
    exact List.nil_prefix
  | some pass =>
    obtain ⟨values, rest⟩ := pass
    obtain ⟨rest', h', hext⟩ := pass?_append h more
    rw [passes_of_pass? hs h, passes_of_pass? hs h', List.cons_prefix_cons, and_iff_right rfl]
    by_cases he : resume content rest = []
    · rw [he, passes_of_pass?_eq_none (pass?_nil_right hs)]
      exact List.nil_prefix
    · have hne : rest ≠ [] := by
        rintro rfl
        exact he (by simp [resume])
      have := length_resume_lt h he
      rw [hext hne, resume_append hne]
      exact passes_append hs (resume content rest) more
termination_by content.length

end Segment

/-- **Content that is added at the end neither changes nor removes a record.** -/
theorem extract_append {source : Text} {t : Template} (h : Template.parse source = .ok t) (reg : Registry)
    (content more : Text) : extract t reg content <+: extract t reg (content ++ more) := by
  by_cases hs : t.segments = []
  · rw [extract_eq_nil h hs]
    exact List.nil_prefix
  · rw [extract_eq_passes h hs, extract_eq_passes h hs]
    exact (Segment.passes_append hs content more).map _

/-- The second match is complete only in the longer content. -/
theorem extract_append_closing :
    ∃ t, Template.parse "<\x7b\x7ba\x7d\x7d>".toList = .ok t ∧
      extract t Registry.standard "<x><y".toList <+: extract t Registry.standard ("<x><y".toList ++ ['>']) ∧
      (extract t Registry.standard "<x><y".toList).map Record.fields = [[(['a'], ['x'])]] ∧
      (extract t Registry.standard ("<x><y".toList ++ ['>'])).map Record.fields =
        [[(['a'], ['x'])], [(['a'], ['y'])]] := by
  have hp : Template.parse "<\x7b\x7ba\x7d\x7d>".toList =
      .ok ⟨Layout.tokens ⟨['<'], [(⟨['a'], []⟩, ['>'])]⟩⟩ := by decide +kernel
  refine ⟨_, hp, extract_append hp _ _ _, ?_, ?_⟩ <;>
    rw [extract_eq_passes hp (by decide)] <;>
    decide +kernel

end PageHarvest
