import PageHarvest.Text.Blank

/-!
# Matching literal text

`Literal.after?` matches a literal at the beginning of a content. White space on either side may be skipped, but equal
characters are paired first. A literal of which only white space is left matches where the content ends.

- `after?_suffix`: what is left behind the match is an end part of the content.
-/

namespace PageHarvest.Literal

open Text (isBlank)

/-- The content behind the literal, or `none` if the content does not start with it. -/
def after? : Text → Text → Option Text
  | [], content => some content
  | l :: ls, [] => if (l :: ls).all isBlank then some [] else none
  | l :: ls, c :: cs =>
    if c = l then after? ls cs
    else if isBlank c then after? (l :: ls) cs
    else if isBlank l then after? ls (c :: cs)
    else none
termination_by literal content => literal.length + content.length

/-- The number of bytes of the content that the literal covers. -/
def consumed? (literal content : Text) : Option Nat :=
  (after? literal content).map fun rest => Text.size content - Text.size rest

theorem after?_suffix {literal content rest : Text} (h : after? literal content = some rest) : rest <:+ content := by
  fun_induction after? literal content with
  | case1 content => cases h; exact List.suffix_refl _
  | case2 l ls _ => cases h; exact List.suffix_refl _
  | case3 => cases h
  | case4 ls c cs ih => exact (ih h).trans (List.suffix_cons c cs)
  | case5 l ls c cs _ _ ih => exact (ih h).trans (List.suffix_cons c cs)
  | case6 l ls c cs _ _ _ ih => exact ih h
  | case7 => cases h

theorem length_after?_le {literal content rest : Text} (h : after? literal content = some rest) :
    rest.length ≤ content.length :=
  (after?_suffix h).length_le

end PageHarvest.Literal
