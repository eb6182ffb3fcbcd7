import PageHarvest.Text.Basic
import PageHarvest.Text.Case.Mappings
import PageHarvest.Text.Case.Ranges

/-!
# Upper and lower case

`toUpper` and `toLower` follow the full case mappings of Unicode, without a locale: one character may become several,
and a capital sigma becomes the final small sigma `ς` at the end of a word and `σ` elsewhere.
-/

namespace PageHarvest.Text

namespace Case

/-- The mapping of one character: its expansion, else its shift, else itself. -/
def mapChar (expansions : Array (Nat × List Nat)) (runs : Array Run) (c : Char) : Text :=
  match expanded? expansions c.toNat with
  | some ns => ns.map Char.ofNat
  | none =>
    match shifted? runs c.toNat with
    | some n => [Char.ofNat n]
    | none => [c]

/-- Is the character a letter with case? -/
def isCased (c : Char) : Bool := inRanges cased c.toNat

/-- Is the character passed over when the letter next to a sigma is looked for? -/
def isIgnorable (c : Char) : Bool := inRanges caseIgnorable c.toNat

/-- Is the first character that is not passed over a letter with case? -/
def leadsToCased (t : Text) : Bool := (t.dropWhile isIgnorable).head?.any isCased

/-- Does a sigma between the reversed text `before` and the text `after` end a word? -/
def isFinalSigma (before after : Text) : Bool := leadsToCased before && !leadsToCased after

/-- The lower case of a text whose reversed left neighbourhood is `before`. -/
def lowerAfter (before : Text) : Text → Text
  | [] => []
  | c :: rest =>
    (if c = 'Σ' then [if isFinalSigma before rest then 'ς' else 'σ']
      else mapChar lowerExpansions lowerRuns c) ++ lowerAfter (c :: before) rest

end Case

/-- The text in lower case. -/
def toLower (t : Text) : Text := Case.lowerAfter [] t

/-- The text in upper case. -/
def toUpper (t : Text) : Text := t.flatMap (Case.mapChar Case.upperExpansions Case.upperRuns)

end PageHarvest.Text
