import PageHarvest.Proofs.Coverage
import PageHarvest.Proofs.SpacedTemplate

/-!
# White space does not matter

White space in front of ink is of no account on both sides of a match: in the literal texts of a template, wherever it
stands, and in a content where a literal covers the ink (`extract_spread`). Elsewhere in a content it belongs to a value.

In the content the search keeps step with itself: each literal is found behind the same gap, and what is left behind a
pass is respaced at places that the passes behind it cover (`pass?_respaced`). A template without ink covers no ink, so
there is no such place (`not_covers_of_blank`).
-/

namespace PageHarvest

open Text (isBlank ink Respaced)

namespace Segment

variable {ss rs : List Segment} {start x x' : Text}

/-! ## Passes -/

/-- **A pass finds the same values** if the white space is changed in front of ink that it covers. -/
theorem pass?_respaced {rest : Text} {values : List Text} (h : Respaced (Covers ss rs start x) x x')
    (hp : pass? rs x = some (values, rest)) :
    ∃ rest', pass? rs x' = some (values, rest') ∧ Respaced (Covers ss [] start rest) rest rest' := by
  induction rs generalizing x x' values with
  | nil =>
    cases hp
    exact ⟨x', rfl, h⟩
  | cons s rs ih =>
    obtain ⟨gap, behind, vs, hf, hr, rfl⟩ := pass?_cons_eq_some_iff.1 hp
    obtain ⟨behind', hf', hb⟩ := Literal.find?_respaced h hf fun g _ hg => not_covers_gap hf hg
    obtain ⟨rest', hr', hrest⟩ := ih (hb.mono fun m hm hc => hc.of_cons hf hm) hr
    exact ⟨rest', pass?_cons_eq_some_iff.2 ⟨gap, behind', vs, hf', hr', rfl⟩, hrest⟩

theorem pass?_eq_none_respaced (h : Respaced (Covers ss rs start x) x x') (hp : pass? rs x = none) :
    pass? rs x' = none := by
  induction rs generalizing x x' with
  | nil => cases hp
  | cons s rs ih =>
    cases hf : Literal.find? s.literal x with
    | none => rw [pass?, Literal.find?_eq_none_respaced h hf]
    | some found =>
      obtain ⟨gap, behind⟩ := found
      rw [pass?_cons hf, Option.map_eq_none_iff] at hp
      obtain ⟨behind', hf', hb⟩ := Literal.find?_respaced h hf fun g _ hg => not_covers_gap hf hg
      rw [pass?_cons hf', ih (hb.mono fun m hm hc => hc.of_cons hf hm) hp, Option.map_none]

/-- A pass over a literal with ink covers something. -/
theorem length_pass?_lt {rest : Text} {values : List Text} (hs : ∃ s ∈ rs, ink s.literal ≠ [])
    (hp : pass? rs x = some (values, rest)) : rest.length < x.length := by
  induction rs generalizing x values with
  | nil =>
    obtain ⟨s, hs, -⟩ := hs
    cases hs
  | cons s rs ih =>
    obtain ⟨gap, behind, vs, hf, hr, -⟩ := pass?_cons_eq_some_iff.1 hp
    obtain ⟨s', hs', hink⟩ := hs
    rcases List.mem_cons.1 hs' with rfl | hs'
    · exact (suffix_of_pass? hr).length_le.trans_lt (Literal.length_find?_lt hink hf)
    · exact (ih ⟨s', hs', hink⟩ hr).trans_le (Literal.suffix_of_find? hf).length_le

/-- Behind a pass that has covered something the search goes on where the pass has ended. -/
theorem resume_of_lt {content rest : Text} (h : rest.length < content.length) : resume content rest = rest :=
  if_neg h.ne

/-- **All passes find the same values.** -/
theorem passes_respaced {x x' : Text} (hs : ∃ s ∈ ss, ink s.literal ≠ []) (h : Respaced (Covers ss ss x x) x x') :
    passes ss x' = passes ss x := by
  have hne : ss ≠ [] := by
    obtain ⟨s, hs, -⟩ := hs
    exact List.ne_nil_of_mem hs
  cases hp : pass? ss x with
  | none => rw [passes_of_pass?_eq_none hp, passes_of_pass?_eq_none (pass?_eq_none_respaced h hp)]
  | some pass =>
    obtain ⟨values, rest⟩ := pass
    obtain ⟨rest', hp', hrest⟩ := pass?_respaced h hp
    have hlt := length_pass?_lt hs hp
    have hresume := resume_of_lt hlt
    have hnext : Respaced (Covers ss ss rest rest) rest rest' := by
      refine hrest.mono fun m _ hc => ?_
      cases hc with
      | again hc => rwa [hresume] at hc
    rw [passes_of_pass? hne hp, passes_of_pass? hne hp', hresume, resume_of_lt (length_pass?_lt hs hp'),
      passes_respaced hs hnext]
termination_by x.length

/-! ## Literals without ink -/

/-- Literals without ink cover no ink. -/
theorem not_covers_of_blank {c : Char} {m : Text} (hss : ∀ s ∈ ss, ink s.literal = [])
    (hrs : ∀ s ∈ rs, ink s.literal = []) (hc : ¬ isBlank c = true) : ¬ Covers ss rs start x (c :: m) := by
  intro h
  generalize hw : c :: m = w at h
  induction h with
  | @here s rs start x gap rest w hf hm hlt =>
    subst hw
    obtain ⟨y, rfl, -, ha, -⟩ := Literal.find?_eq_some_iff.1 hf
    rw [List.drop_left] at hm
    exact hc (Literal.isBlank_of_after? (hrs s List.mem_cons_self) ha hm hlt)
  | later _ _ ih => exact ih (fun s hs => hrs s (List.mem_cons_of_mem _ hs)) hw
  | again _ ih => exact ih hss hw

end Segment

/-! ## Records -/

/-- White space may be changed at will in front of ink of the content that a literal covers. -/
theorem extract_respaced {source : Text} {t : Template} (h : Template.parse source = .ok t) (reg : Registry)
    {content content' : Text} (hr : Respaced (Extraction.Consumes t reg content) content content') :
    extract t reg content' = extract t reg content := by
  have hcovers : Respaced (Segment.Covers t.segments t.segments content content) content content' :=
    hr.mono fun m _ hm => hm.covers h
  by_cases hs : t.segments = []
  · rw [extract_eq_nil h hs, extract_eq_nil h hs]
  by_cases hink : ∃ s ∈ t.segments, ink s.literal ≠ []
  · rw [extract_eq_passes h hs, extract_eq_passes h hs, Segment.passes_respaced hink hcovers]
  · have hblank : ∀ s ∈ t.segments, ink s.literal = [] := fun s hs => by_contra fun e => hink ⟨s, hs, e⟩
    rw [hcovers.eq_of_not fun c m _ hc => Segment.not_covers_of_blank hblank hblank hc]

/-- **White space in front of the ink of literals does not matter, on both sides.** White space that is put in front of
ink of the literal texts of an accepted template leaves it an accepted template with the same records in every content.
White space that is put into a content in front of ink that a literal covers leaves all records as they are. -/
theorem extract_spread {source : Text} {t : Template} (h : Template.parse source = .ok t) (reg : Registry)
    (content : Text) :
    (∀ t', t.Spread t' → Template.parse (Token.print t'.tokens) = .ok t' ∧
      extract t' reg content = extract t reg content) ∧
    ∀ content', Text.Spread (Extraction.Consumes t reg content) content content' →
      extract t reg content' = extract t reg content := by
  refine ⟨fun t' ht => ?_, fun content' hc => extract_respaced h reg hc.respaced⟩
  have h' := Template.parse_of_spread h ht
  obtain ⟨rows, -, hr', hr⟩ := extract_of_shapes_eq h' h (Template.map_shape_of_spread h ht) reg reg content
  exact ⟨h', by rw [hr', hr, Template.placeholders_of_spread h ht]⟩

/-- A space in front of each literal, and a line break in front of what ends the value. -/
theorem extract_spread_bracketed :
    ∃ t t', Template.parse "<\x7b\x7ba\x7d\x7d>".toList = .ok t ∧
      Template.parse " <\x7b\x7ba\x7d\x7d >".toList = .ok t' ∧
      (extract t' Registry.empty "<x>".toList).map Record.fields = [[(['a'], ['x'])]] ∧
      (extract t Registry.empty "<x\n>".toList).map Record.fields = [[(['a'], ['x'])]] := by
  have hp : Template.parse "<\x7b\x7ba\x7d\x7d>".toList = .ok ⟨Layout.tokens ⟨['<'], [(⟨['a'], []⟩, ['>'])]⟩⟩ := by
    decide +kernel
  have hrecord : (extract ⟨Layout.tokens ⟨['<'], [(⟨['a'], []⟩, ['>'])]⟩⟩ Registry.empty "<x>".toList).map
      Record.fields = [[(['a'], ['x'])]] := by
    rw [extract_eq_passes hp (by decide)]
    decide +kernel
  obtain ⟨htemplate, hcontent⟩ := extract_spread hp Registry.empty "<x>".toList
  have hspread : Template.Spread ⟨Layout.tokens ⟨['<'], [(⟨['a'], []⟩, ['>'])]⟩⟩
      ⟨Layout.tokens ⟨[' ', '<'], [(⟨['a'], []⟩, [' ', '>'])]⟩⟩ := by
    have hspace (c : Char) (hc : ¬ isBlank c = true) : Token.Spread ⟨.text, [c]⟩ ⟨.text, [' ', c]⟩ :=
      .text (.insert (b := [' ']) (by decide) hc trivial .nil)
    exact .cons (hspace '<' (by decide)) (.cons (.other (by decide)) (.cons (.other (by decide))
      (.cons (.other (by decide)) (.cons (hspace '>' (by decide)) (.cons (.other (by decide)) .nil)))))
  obtain ⟨hp', hrecord'⟩ := htemplate _ hspread
  -- five steps lead to the bracket that ends the value
  have hclosing :
      Extraction.Consumes ⟨Layout.tokens ⟨['<'], [(⟨['a'], []⟩, ['>'])]⟩⟩ Registry.empty "<x>".toList ['>'] :=
    ⟨5, ⟨"<x>".toList, ['>'], [⟨.text, ['>']⟩, Token.final], some ⟨['a'], [], "x>".toList⟩, Record.empty⟩,
      by decide +kernel, _, _, [], rfl, rfl, by decide +kernel, List.suffix_refl _, by decide⟩
  have hbreak := hcontent "<x\n>".toList
    (.cons (.cons (.insert (b := ['\n']) (by decide) (by decide) hclosing .nil)))
  exact ⟨_, _, hp, hp', by rw [hrecord', hrecord], by rw [hbreak, hrecord]⟩

end PageHarvest
