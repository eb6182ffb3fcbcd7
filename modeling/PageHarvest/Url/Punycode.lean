import PageHarvest.Text.Basic

/-!
# Punycode

A text is written in ASCII as its ASCII characters, a hyphen, and digits that say which other characters go where. These
come in the order of their numbers, each as its distance from the one before it; a distance is written in digits of
base 36 whose weights adapt to the size of the distances.
-/

namespace PageHarvest.Url.Punycode

/-- The letter or the decimal digit for a digit of base 36. -/
def digitChar (d : Nat) : Char := if d < 26 then Char.ofNat (0x61 + d) else Char.ofNat (0x30 + (d - 26))

/-- The digit of base 36 that a letter or a decimal digit stands for. -/
def digit? (c : Char) : Option Nat :=
  if c.isLower then some (c.toNat - 0x61)
  else if c.isUpper then some (c.toNat - 0x41)
  else if c.isDigit then some (c.toNat - 0x30 + 26)
  else none

/-- The code point in front of the first character that is not ASCII. -/
def firstCode : Nat := 0x80

/-- The least digit that does not end a number, in the digit with the given place. -/
def threshold (bias place : Nat) : Nat := min 26 (max 1 (36 * (place + 1) - bias))

theorem threshold_bounds (bias place : Nat) : 1 ≤ threshold bias place ∧ threshold bias place ≤ 26 := by
  unfold threshold
  omega

/-- The number of digits that a distance is expected to need, times the base, and what is left of the distance. -/
def shrink (bias delta : Nat) : Nat × Nat :=
  if 455 < delta then shrink (bias + 36) (delta / 35) else (bias, delta)
termination_by delta
decreasing_by omega

/-- The bias behind a distance, with `count` characters in place. -/
def adapt (delta count : Nat) (first : Bool) : Nat :=
  let damped := if first then delta / 700 else delta / 2
  let (bias, rest) := shrink 0 (damped + damped / count)
  bias + 36 * rest / (rest + 38)

/-- The bias at the beginning. -/
def initialBias : Nat := 72

/-! ## Writing -/

/-- The digits of a distance. -/
def writeNumber (bias place n : Nat) : Text :=
  let t := threshold bias place
  if n < t then [digitChar n]
  else digitChar (t + (n - t) % (36 - t)) :: writeNumber bias (place + 1) ((n - t) / (36 - t))
termination_by n
decreasing_by
  have := threshold_bounds bias place
  have := Nat.div_le_self (n - threshold bias place) (36 - threshold bias place)
  omega

/-- The digits written so far, the distance from the last character put in place, the bias, and the number of characters
in place. -/
structure Progress where
  digits : Text
  delta : Nat
  bias : Nat
  count : Nat

/-- Passes over a character of the text while the characters with number `code` are put in place. -/
def Progress.pass (basic code : Nat) (p : Progress) (c : Char) : Progress :=
  if c.toNat < code then { p with delta := p.delta + 1 }
  else if c.toNat = code then
    { digits := p.digits ++ writeNumber p.bias 0 p.delta
      delta := 0
      bias := adapt p.delta (p.count + 1) (p.count = basic)
      count := p.count + 1 }
  else p

/-- Puts the characters with the given numbers in place, which are ascending; `code` is the first number that has not
been dealt with. -/
def writeCodes (t : Text) (basic : Nat) (p : Progress) (code : Nat) : List Nat → Progress
  | [] => p
  | next :: codes =>
    let p := t.foldl (Progress.pass basic next) { p with delta := p.delta + (next - code) * (p.count + 1) }
    writeCodes t basic { p with delta := p.delta + 1 } (next + 1) codes

/-- The ASCII form of a text. -/
def encode (t : Text) : Text :=
  let basic := t.filter fun c => c.toNat < firstCode
  let codes := ((t.map Char.toNat).filter (firstCode ≤ ·)).mergeSort.eraseDups
  let p := writeCodes t basic.length ⟨[], 0, initialBias, basic.length⟩ firstCode codes
  basic ++ (if basic = [] then [] else ['-']) ++ p.digits

/-! ## Reading -/

/-- The characters in place, and the state of the number that is being read: its value so far, the weight and the place
of its next digit, and the position from which it counts. -/
structure Reading where
  placed : Text
  code : Nat
  position : Nat
  bias : Nat
  value : Nat
  weight : Nat
  place : Nat

/-- Puts the next character in place at the end of a number. -/
def Reading.finish? (r : Reading) (value : Nat) : Option Reading :=
  let count := r.placed.length + 1
  let code := r.code + (r.position + value) / count
  let position := (r.position + value) % count
  if code < 0xd800 ∨ (0xe000 ≤ code ∧ code ≤ 0x10ffff) then
    some {
      placed := r.placed.take position ++ Char.ofNat code :: r.placed.drop position
      code, position := position + 1
      bias := adapt value count (r.placed.all fun c => c.toNat < firstCode)
      value := 0, weight := 1, place := 0 }
  else none

/-- Reads a digit. -/
def Reading.step? (r : Reading) (c : Char) : Option Reading := do
  let d ← digit? c
  let value := r.value + d * r.weight
  let t := threshold r.bias r.place
  if d < t then r.finish? value
  else return { r with value, weight := r.weight * (36 - t), place := r.place + 1 }

/-- The text that an ASCII form stands for. A hyphen at its very beginning does not end the ASCII characters. -/
def decode? (t : Text) : Option Text := do
  let digits := if '-' ∈ t.drop 1 then (t.reverse.takeWhile (· ≠ '-')).reverse else t
  let basic := t.take (t.length - digits.length - 1)
  let r ← digits.foldlM Reading.step? ⟨basic, firstCode, 0, initialBias, 0, 1, 0⟩
  if r.place = 0 ∧ basic.all (·.toNat < firstCode) then some r.placed else none

end PageHarvest.Url.Punycode
