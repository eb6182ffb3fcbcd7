import PageHarvest.Filter.Standard

/-!
# Percent encoding, unit by unit

Percent-encoded bytes are a sequence of units: a byte other than `%` stands for itself, and `%` with two hexadecimal
digits for one byte (`Percent.Units`). The bytes have such units if and only if the scanner accepts them, and what they
stand for is then what the decoder gives (`Percent.units_iff`), though the two walk over the bytes on their own. So
the filter `unescape` gives back what was encoded, and its error for everything else (`Filter.unescape_exact`).
-/

namespace PageHarvest

namespace Percent

/-- A hexadecimal digit of either case. -/
structure Digit where
  value : Fin 16
  capital : Bool
  deriving DecidableEq, Repr

/-- The character of a digit. -/
def Digit.char (d : Digit) : Char :=
  if d.capital then (Nat.digitChar d.value).toUpper else Nat.digitChar d.value

/-- The byte of a digit. -/
def Digit.byte (d : Digit) : UInt8 := UInt8.ofNat d.char.toNat

/-- **Units that make up bytes,** and the bytes that they stand for. -/
inductive Units : List UInt8 → List UInt8 → Prop
  | nil : Units [] []
  | plain {b : UInt8} {bs vs : List UInt8} : b ≠ sign → Units bs vs → Units (b :: bs) (b :: vs)
  | escape {bs vs : List UInt8} (hi lo : Digit) : Units bs vs →
      Units (sign :: hi.byte :: lo.byte :: bs) (UInt8.ofNat (16 * hi.value + lo.value) :: vs)

/-- The text `v` is made up of units that stand for the text `s`. -/
def Stands (v s : Text) : Prop := Units (Text.bytes v) (Text.bytes s)

/-! ## Digits -/

theorem Digit.char_lt (d : Digit) : d.char.toNat < 128 := by
  obtain ⟨n, capital⟩ := d
  revert n capital
  decide

@[simp] theorem Digit.isHexDigit_byte (d : Digit) : isHexDigit d.byte = true := by
  obtain ⟨n, capital⟩ := d
  revert n capital
  decide

@[simp] theorem Digit.hexValue?_byte (d : Digit) : hexValue? d.byte = some (UInt8.ofNat d.value) := by
  obtain ⟨n, capital⟩ := d
  revert n capital
  decide

/-- A byte that passes for a digit is one. -/
theorem exists_digit {b : UInt8} (h : isHexDigit b = true) : ∃ d : Digit, d.byte = b := by
  have hall : ∀ n : Fin 256, isHexDigit (UInt8.ofNat n) = true →
      ∃ v : Fin 16, ∃ capital : Bool, (Digit.mk v capital).byte = UInt8.ofNat n := by
    decide +kernel
  obtain ⟨v, capital, hd⟩ := hall ⟨b.toNat, b.toNat_lt⟩ (by simpa using h)
  exact ⟨⟨v, capital⟩, by simpa using hd⟩

@[simp] theorem pairValue?_byte (hi lo : Digit) :
    pairValue? hi.byte lo.byte = some (UInt8.ofNat (16 * hi.value + lo.value)) := by
  simp [pairValue?, UInt8.ofNat_add, UInt8.ofNat_mul]

/-! ## The scanner and the decoder -/

section Units

variable {bs vs bs' vs' : List UInt8}

/-- The scanner jumps from unit to unit. -/
theorem Units.wellEscaped (h : Units bs vs) : wellEscaped bs = true := by
  induction h with
  | nil => rfl
  | plain hb _ ih =>
    unfold Percent.wellEscaped
    simp [hb, ih]
  | escape hi lo _ ih => simp [Percent.wellEscaped, ih]

/-- The decoder takes the units for what they stand for. -/
theorem Units.decodeLoosely (h : Units bs vs) : decodeLoosely bs = vs := by
  induction h with
  | nil => rfl
  | plain hb _ ih =>
    unfold Percent.decodeLoosely
    simp [hb, ih]
  | escape hi lo _ ih => simp [Percent.decodeLoosely, ih]

/-- What the scanner accepts has units. -/
theorem exists_units (h : wellEscaped bs = true) : ∃ vs, Units bs vs := by
  fun_induction wellEscaped bs with
  | case1 => exact ⟨[], .nil⟩
  | case2 hi lo rest ih =>
    simp only [Bool.and_eq_true] at h
    obtain ⟨⟨hhi, hlo⟩, hrest⟩ := h
    obtain ⟨hi, rfl⟩ := exists_digit hhi
    obtain ⟨lo, rfl⟩ := exists_digit hlo
    obtain ⟨vs, hvs⟩ := ih hrest
    exact ⟨_, .escape hi lo hvs⟩
  | case3 => cases h
  | case4 b bs hb ih =>
    obtain ⟨vs, hvs⟩ := ih h
    exact ⟨b :: vs, .plain hb hvs⟩

/-- **The scanner and the decoder agree:** they find the same units. -/
theorem units_iff : Units bs vs ↔ wellEscaped bs = true ∧ decodeLoosely bs = vs := by
  constructor
  · intro h
    exact ⟨h.wellEscaped, h.decodeLoosely⟩
  · rintro ⟨h, rfl⟩
    obtain ⟨vs, hvs⟩ := exists_units h
    rw [hvs.decodeLoosely]
    exact hvs

theorem Units.append (h : Units bs vs) (h' : Units bs' vs') : Units (bs ++ bs') (vs ++ vs') := by
  induction h with
  | nil => exact h'
  | plain hb _ ih => exact .plain hb ih
  | escape hi lo _ ih => exact .escape hi lo ih

/-- Bytes without `%` stand for themselves. -/
theorem units_self (h : sign ∉ bs) : Units bs bs := by
  induction bs with
  | nil => exact .nil
  | cons b bs ih =>
    rw [List.mem_cons, not_or] at h
    exact .plain (Ne.symm h.1) (ih h.2)

end Units

theorem stands_iff {v s : Text} : Stands v s ↔ wellEscaped (Text.bytes v) = true ∧ decodeText? v = some s := by
  rw [Stands, units_iff, decodeText?, Text.ofBytes?_eq_some_iff, eq_comm (a := Text.bytes s)]

/-! ## Encoding -/

/-- How a character is written. -/
inductive Form
  | raw
  | escaped (capital : Bool)
  deriving DecidableEq, Repr

/-- The digit for the last four bits of a number. -/
def Digit.ofNat (capital : Bool) (n : Nat) : Digit := ⟨Fin.ofNat 16 n, capital⟩

/-- A byte as `%` with two digits. -/
def encodeByte (capital : Bool) (b : UInt8) : Text :=
  ['%', (Digit.ofNat capital (b.toNat / 16)).char, (Digit.ofNat capital b.toNat).char]

/-- A character in one of its forms. -/
def encodeChar (c : Char) : Form → Text
  | .raw => [c]
  | .escaped capital => (String.utf8EncodeChar c).flatMap (encodeByte capital)

/-- A text with each character in the form chosen for it. -/
def encode (cs : List (Char × Form)) : Text := cs.flatMap fun x => encodeChar x.1 x.2

@[simp] theorem Digit.value_ofNat (capital : Bool) (n : Nat) : ((Digit.ofNat capital n).value : Nat) = n % 16 := rfl

/-- Two digits behind `%` are three bytes. -/
theorem bytes_escape (hi lo : Digit) : Text.bytes ['%', hi.char, lo.char] = [sign, hi.byte, lo.byte] := by
  simp only [Text.bytes_cons, Text.utf8EncodeChar_of_lt hi.char_lt, Text.utf8EncodeChar_of_lt lo.char_lt]
  rfl

theorem units_encodeByte (capital : Bool) (b : UInt8) : Units (Text.bytes (encodeByte capital b)) [b] := by
  have hunit := Units.escape (Digit.ofNat capital (b.toNat / 16)) (Digit.ofNat capital b.toNat) .nil
  have hvalue : 16 * (b.toNat / 16 % 16) + b.toNat % 16 = b.toNat := by
    have := b.toNat_lt
    omega
  rw [Digit.value_ofNat, Digit.value_ofNat, hvalue, UInt8.ofNat_toNat] at hunit
  rw [encodeByte, bytes_escape]
  exact hunit

theorem units_encodeBytes (capital : Bool) (bs : List UInt8) :
    Units (Text.bytes (bs.flatMap (encodeByte capital))) bs := by
  induction bs with
  | nil => exact .nil
  | cons b bs ih =>
    rw [List.flatMap_cons, Text.bytes_append]
    exact (units_encodeByte capital b).append ih

theorem units_encodeChar {c : Char} {form : Form} (h : c = '%' → form ≠ .raw) :
    Units (Text.bytes (encodeChar c form)) (String.utf8EncodeChar c) := by
  cases form with
  | raw =>
    have hc : c ≠ '%' := fun e => h e rfl
    have hsign : sign ∉ String.utf8EncodeChar c := Text.ofNat_not_mem_utf8EncodeChar (d := '%') (by decide) hc
    simpa [encodeChar] using units_self hsign
  | escaped capital => exact units_encodeBytes capital (String.utf8EncodeChar c)

/-- An encoded text stands for the text, if no `%` is left as it is. -/
theorem stands_encode {cs : List (Char × Form)} (h : ∀ x ∈ cs, x.1 = '%' → x.2 ≠ .raw) :
    Stands (encode cs) (cs.map Prod.fst) := by
  induction cs with
  | nil => exact .nil
  | cons x cs ih =>
    obtain ⟨hx, hcs⟩ := List.forall_mem_cons.1 h
    unfold Stands
    rw [encode, List.flatMap_cons, Text.bytes_append]
    exact (units_encodeChar hx).append (ih hcs)

end Percent

namespace Filter

open Percent

theorem unescape_eq {v s : Text} (h : Stands v s) : unescape v = s := by
  obtain ⟨hwell, hdecode⟩ := stands_iff.1 h
  rw [unescape, if_pos hwell, hdecode]

theorem unescape_eq_error {v : Text} (h : ∀ s, ¬ Stands v s) : unescape v = unescapeError := by
  unfold unescape
  split
  · rename_i hwell
    split
    · rename_i t ht
      exact absurd (stands_iff.2 ⟨hwell, ht⟩) (h t)
    · rfl
  · rfl

/-- **`unescape` inverts every percent encoding and flags everything else.** A text whose units stand for a text `s`
becomes `s`, any other text the error. In particular what is encoded comes back, whichever characters are escaped, as
long as every `%` is. -/
theorem unescape_exact (v : Text) :
    (∀ s, unescape v = s ↔ Stands v s ∨ s = unescapeError ∧ ∀ s', ¬ Stands v s') ∧
    ∀ cs : List (Char × Form), (∀ x ∈ cs, x.1 = '%' → x.2 ≠ .raw) → unescape (encode cs) = cs.map Prod.fst := by
  refine ⟨fun s => ?_, fun cs h => unescape_eq (stands_encode h)⟩
  constructor
  · rintro rfl
    by_cases h : ∃ s, Stands v s
    · obtain ⟨s, hs⟩ := h
      rw [unescape_eq hs]
      exact .inl hs
    · have hnone := not_exists.1 h
      exact .inr ⟨unescape_eq_error hnone, hnone⟩
  · rintro (h | ⟨rfl, h⟩)
    · exact unescape_eq h
    · exact unescape_eq_error h

/-- An escaped `é`, an escaped `%` and digits that are then no escape. -/
theorem unescape_exact_escaped_sign : unescape "%c3%a9%2541".toList = "é%41".toList := by
  have h := (unescape_exact []).2
    [('é', .escaped false), ('%', .escaped true), ('4', .raw), ('1', .raw)] (by decide)
  exact h

end Filter

end PageHarvest
