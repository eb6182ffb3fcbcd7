import PageHarvest.Text.Basic

/-!
# Digits

Numbers in a base of at most 16, whose digits beyond nine are letters of either case.
-/

namespace PageHarvest.Text

/-- The value of a digit in a base. -/
def digit? (base : Nat) (c : Char) : Option Nat :=
  let n := c.toNat
  let value := if c.isDigit then n - 0x30 else if 0x61 ≤ n && n ≤ 0x66 then n - 0x57
    else if 0x41 ≤ n && n ≤ 0x46 then n - 0x37 else base
  if value < base then some value else none

/-- The number that digits make up, if there are no other characters. No digits make zero. -/
def digits? (base : Nat) (t : Text) : Option Nat :=
  t.foldl (fun acc c => acc.bind fun a => (digit? base c).map fun d => a * base + d) (some 0)

end PageHarvest.Text
