/-!
# Lookup in sorted tables

`floor?` finds the last entry of an array, sorted by a key, whose key does not exceed a number. Tables of code points
are read in this way: `inRanges` reads disjoint ranges, `shifted?` runs of code points that move by the same distance,
`expanded?` single code points, and `listed?` consecutive ones.
-/

namespace PageHarvest.Text

/-- The last entry with index in `[lo, hi)` whose key is at most `n`, or `best` if there is none. -/
def floorBetween {α : Type} (key : α → Nat) (table : Array α) (n lo hi : Nat) (best : Option α) : Option α :=
  if _h : lo < hi then
    let mid := (lo + hi) / 2
    match table[mid]? with
    | none => best
    | some entry =>
      if key entry ≤ n then floorBetween key table n (mid + 1) hi (some entry)
      else floorBetween key table n lo mid best
  else best
termination_by hi - lo
decreasing_by all_goals omega

/-- The last entry of a table sorted by `key` whose key is at most `n`. -/
def floor? {α : Type} (key : α → Nat) (table : Array α) (n : Nat) : Option α :=
  floorBetween key table n 0 table.size none

/-- Is `n` in one of the ranges (ends included) of a sorted table? -/
def inRanges (table : Array (Nat × Nat)) (n : Nat) : Bool :=
  (floor? Prod.fst table n).any fun r => n ≤ r.2

/-- The code points `first`, `first + stride`, …, `last` map to themselves plus `shift`. -/
structure Run where
  first : Nat
  last : Nat
  stride : Nat
  shift : Int

/-- The code point that a table of runs assigns to `n`. -/
def shifted? (runs : Array Run) (n : Nat) : Option Nat :=
  (floor? Run.first runs n).bind fun r =>
    if n ≤ r.last && (n - r.first) % r.stride == 0 then some (n + r.shift).toNat else none

/-- The code points that a table of expansions assigns to `n`. -/
def expanded? (table : Array (Nat × List Nat)) (n : Nat) : Option (List Nat) :=
  (floor? Prod.fst table n).bind fun e => if e.1 = n then some e.2 else none

/-- The entry for `n` in a table that lists entries for consecutive code points from some of them on. -/
def listed? {α : Type} (table : Array (Nat × Array α)) (n : Nat) : Option α :=
  (floor? Prod.fst table n).bind fun r => r.2[n - r.1]?

end PageHarvest.Text
