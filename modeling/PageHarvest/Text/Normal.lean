import PageHarvest.Text.Basic
import PageHarvest.Text.Normal.Classes
import PageHarvest.Text.Normal.Decompositions
import PageHarvest.Text.Lookup

/-!
# Normal form of text

Texts may be equivalent though their characters differ: a letter with a mark may be one character or two, and marks of
different classes may come in any order. `normalize` gives the form in which letters and marks are one character where
there is one: it takes everything apart, puts the marks in order, and puts together what it can.
-/

namespace PageHarvest.Text

namespace Normal

/-! ## Hangul -/

/-- The first syllable, the first leading consonant, and the code points in front of the first vowel and of the first
trailing consonant. -/
def syllableBase : Nat := 0xac00
/-- The first leading consonant. -/
def leadBase : Nat := 0x1100
/-- The first vowel. -/
def vowelBase : Nat := 0x1161
/-- The code point in front of the first trailing consonant. -/
def trailBase : Nat := 0x11a7
/-- The number of leading consonants. -/
def leadCount : Nat := 19
/-- The number of vowels. -/
def vowelCount : Nat := 21
/-- The number of ways to end a syllable, without a consonant among them. -/
def trailCount : Nat := 28

/-- The letters of a syllable given by its number. -/
def letters (n : Nat) : Text :=
  let lead := Char.ofNat (leadBase + n / (vowelCount * trailCount))
  let vowel := Char.ofNat (vowelBase + n / trailCount % vowelCount)
  if n % trailCount = 0 then [lead, vowel] else [lead, vowel, Char.ofNat (trailBase + n % trailCount)]

/-- The syllable that begins with two characters, if they make one up. -/
def syllable? (a b : Char) : Option Char :=
  let (m, n) := (a.toNat, b.toNat)
  if leadBase ≤ m ∧ m < leadBase + leadCount ∧ vowelBase ≤ n ∧ n < vowelBase + vowelCount then
    some (Char.ofNat (syllableBase + ((m - leadBase) * vowelCount + (n - vowelBase)) * trailCount))
  else if syllableBase ≤ m ∧ m < syllableBase + leadCount * vowelCount * trailCount ∧
      (m - syllableBase) % trailCount = 0 ∧ trailBase < n ∧ n < trailBase + trailCount then
    some (Char.ofNat (m + (n - trailBase)))
  else none

/-! ## Taking apart -/

/-- The character that a character is equivalent to, if there is one. -/
def singleton? (c : Char) : Option Char :=
  (listed? singletons c.toNat).map Char.ofNat

/-- The pair of characters that a character is equivalent to, if there is one. -/
def pair? (c : Char) : Option (Char × Char) :=
  (floor? Prod.fst pairs c.toNat).bind fun p =>
    if p.1 = c.toNat then some (Char.ofNat p.2.1, Char.ofNat p.2.2) else none

/-- No character has to be taken apart more often than this. -/
def maxDepth : Nat := 4

/-- Takes a character apart, `depth` times at most. -/
def decomposeChar : Nat → Char → Text
  | 0, c => [c]
  | depth + 1, c =>
    if syllableBase ≤ c.toNat ∧ c.toNat < syllableBase + leadCount * vowelCount * trailCount then
      letters (c.toNat - syllableBase)
    else
      match singleton? c, pair? c with
      | some d, _ => decomposeChar depth d
      | none, some (a, b) => decomposeChar depth a ++ decomposeChar depth b
      | none, none => [c]

/-- Puts a mark behind all marks in front of which it must not go. -/
def insertMark (c : Char) : Text → Text
  | [] => [c]
  | d :: t => if combiningClass d ≠ 0 ∧ combiningClass d < combiningClass c then d :: insertMark c t else c :: d :: t

/-- Puts the marks behind each character in the order of their classes. -/
def order : Text → Text
  | [] => []
  | c :: t => if combiningClass c = 0 then c :: order t else insertMark c (order t)

/-- A text with all its characters taken apart. -/
def decompose (t : Text) : Text := order (t.flatMap (decomposeChar maxDepth))

/-! ## Putting together -/

/-- The character that is equivalent to two, if normal text has one. -/
def composite? (a b : Char) : Option Char :=
  match syllable? a b with
  | some c => some c
  | none =>
    (pairs.find? fun p => p.2.1 = a.toNat && p.2.2 = b.toNat && !inRanges excluded p.1).map (Char.ofNat ·.1)

/-- Puts marks together with the character in front of them. Those in `kept`, the last one first, did not go together
with it; they stand in the way of further ones of the same class or a lower one. -/
def composeFrom (start : Char) (kept : Text) : Text → Text
  | [] => start :: kept.reverse
  | c :: t =>
    let free := match kept with | [] => true | d :: _ => decide (combiningClass d < combiningClass c)
    match if free then composite? start c else none with
    | some whole => composeFrom whole kept t
    | none =>
      if combiningClass c = 0 then start :: (kept.reverse ++ composeFrom c [] t)
      else composeFrom start (c :: kept) t

/-- A text with its characters put together. -/
def compose : Text → Text
  | [] => []
  | c :: t => composeFrom c [] t

end Normal

/-- The normal form of a text. -/
def normalize (t : Text) : Text := Normal.compose (Normal.decompose t)

end PageHarvest.Text
