import Mathlib.Algebra.Group.Nat.Defs
import PageHarvest.Filter.Standard

/-!
# Amounts

The filter `pence` reads the digits of a text from the last one to the first. Both the amount and the worth of the next
digit stay at the greatest amount once they would exceed it, and from then on the worth is wrong. Nothing comes of it: a
sum or a product saturates in the same way whether its parts have been saturated or not (`saturate_saturate_add`,
`saturate_saturate_mul`), so what is tallied is at any time what exact arithmetic gives, saturated (`tally_eq`).
-/

namespace PageHarvest.Filter

/-- The number that the digits of a text write, whatever stands between them. -/
def number (v : Text) : Nat := Nat.ofDigitChars 10 (v.filter Char.isDigit) 0

/-- What one more digit in front of a text is worth. -/
def worth (v : Text) : Nat := 10 ^ (v.filter Char.isDigit).length

/-! ## Saturated arithmetic -/

theorem saturate_of_le {n : Nat} (h : n ≤ maxAmount) : saturate n = n := Nat.min_eq_left h

theorem saturate_of_ge {n : Nat} (h : maxAmount ≤ n) : saturate n = maxAmount := Nat.min_eq_right h

/-- A sum saturates in the same way if its parts have been saturated. -/
theorem saturate_saturate_add (m n : Nat) : saturate (saturate m + saturate n) = saturate (m + n) := by
  unfold saturate
  omega

/-- A multiple saturates in the same way if what is multiplied has been saturated. Zero times it is zero either way. -/
theorem saturate_saturate_mul (u d : Nat) : saturate (saturate u * d) = saturate (u * d) := by
  rcases Nat.le_total u maxAmount with hu | hu
  · rw [saturate_of_le hu]
  rw [saturate_of_ge hu]
  rcases Nat.eq_zero_or_pos d with rfl | hd
  · rfl
  · have hmax : maxAmount ≤ maxAmount * d := Nat.le_mul_of_pos_right _ hd
    have hle : maxAmount * d ≤ u * d := Nat.mul_le_mul_right d hu
    rw [saturate_of_ge hmax, saturate_of_ge (Nat.le_trans hmax hle)]

/-! ## Digit by digit -/

section Cons

variable {c : Char} (v : Text)

theorem number_cons_of_isDigit (h : c.isDigit = true) :
    number (c :: v) = number v + worth v * (c.toNat - '0'.toNat) := by
  rw [number, List.filter_cons_of_pos h, Nat.ofDigitChars_cons, Nat.ofDigitChars_eq_ofDigitChars_zero, Nat.mul_zero,
    Nat.zero_add, Nat.add_comm, number, worth]

theorem worth_cons_of_isDigit (h : c.isDigit = true) : worth (c :: v) = worth v * 10 := by
  rw [worth, List.filter_cons_of_pos h, List.length_cons, pow_succ, worth]

theorem number_cons_of_not_isDigit (h : ¬ c.isDigit = true) : number (c :: v) = number v := by
  rw [number, List.filter_cons_of_neg h, number]

theorem worth_cons_of_not_isDigit (h : ¬ c.isDigit = true) : worth (c :: v) = worth v := by
  rw [worth, List.filter_cons_of_neg h, worth]

end Cons

/-- **The tally is that of exact arithmetic, saturated**, however often it has been saturated on the way. -/
theorem tally_eq (v : Text) : tally v = (saturate (number v), saturate (worth v)) := by
  induction v with
  | nil => rfl
  | cons c v ih =>
    simp only [tally, ih]
    by_cases hc : c.isDigit = true
    · rw [if_pos hc, number_cons_of_isDigit v hc, worth_cons_of_isDigit v hc, saturate_saturate_mul,
        saturate_saturate_mul, saturate_saturate_add]
    · rw [if_neg hc, number_cons_of_not_isDigit v hc, worth_cons_of_not_isDigit v hc]

/-- **`pence` is exact up to its limit and stays there beyond it:** it gives the decimal digits of the number that the
digits of the text write, or of `2 ^ 64 - 1` if that is less. -/
theorem pence_exact (v : Text) : pence v = Nat.toDigits 10 (min (number v) (2 ^ 64 - 1)) := by
  have hamount : (tally v).1 = min (number v) (2 ^ 64 - 1) := by
    rw [tally_eq]
    rfl
  rw [pence, hamount, Nat.toString_eq_repr, Nat.toList_repr]

-- One more than the limit, and a digit in front of and behind so many zeros that its worth is saturated.
example : pence "£184467440737095516.16".toList = "18446744073709551615".toList ∧
    pence "7 0000000000000000000000".toList = "18446744073709551615".toList ∧
    pence "0000000000000000000000 7".toList = "7".toList := by decide

end PageHarvest.Filter
