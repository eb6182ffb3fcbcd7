/-!
# Text and its UTF-8 form

Text is handled as the list of its characters. `Text.bytes` is its UTF-8 form, `Text.size` the number of those
bytes, and `Text.ofBytes?` reads bytes back; it refuses bytes that are not UTF-8.

- `bytes_append`, `size_append`: both measures split along concatenation.
- `length_bytes`: `size` counts the bytes.
- `ofBytes?_eq_some_iff`: reading and writing UTF-8 undo each other.
- `ofNat_not_mem_utf8EncodeChar`: the byte of an ASCII character stands in the UTF-8 form of no other character.
-/

namespace PageHarvest

/-- Text is the list of its characters. -/
abbrev Text := List Char

namespace Text

/-- The UTF-8 form of a text. -/
def bytes (t : Text) : List UInt8 := t.flatMap String.utf8EncodeChar

/-- The number of bytes in the UTF-8 form of a text. -/
def size : Text → Nat
  | [] => 0
  | c :: t => c.utf8Size + size t

/-- Reads UTF-8; `none` if the bytes are not the UTF-8 form of any text. -/
def ofBytes? (bs : List UInt8) : Option Text :=
  bs.toByteArray.utf8Decode?.map Array.toList

@[simp] theorem bytes_nil : bytes [] = [] := rfl

@[simp] theorem bytes_cons (c : Char) (t : Text) : bytes (c :: t) = String.utf8EncodeChar c ++ bytes t := rfl

@[simp] theorem bytes_append (s t : Text) : bytes (s ++ t) = bytes s ++ bytes t := by
  simp [bytes]

@[simp] theorem size_nil : size [] = 0 := rfl

@[simp] theorem size_cons (c : Char) (t : Text) : size (c :: t) = c.utf8Size + size t := rfl

@[simp] theorem size_append (s t : Text) : size (s ++ t) = size s + size t := by
  induction s with
  | nil => simp
  | cons c s ih => simp [ih]; omega

theorem length_bytes (t : Text) : (bytes t).length = size t := by
  induction t with
  | nil => rfl
  | cons c t ih => simp [ih]

theorem ofBytes?_bytes (t : Text) : ofBytes? (bytes t) = some t := by
  have h : (bytes t).toByteArray = t.utf8Encode := rfl
  rw [ofBytes?, h, List.utf8Decode?_utf8Encode]
  rfl

theorem bytes_of_ofBytes? {bs : List UInt8} {t : Text} (h : ofBytes? bs = some t) : bytes t = bs := by
  obtain ⟨a, ha, rfl⟩ := Option.map_eq_some_iff.1 h
  have hs : bs.toByteArray.utf8Decode?.isSome = true := by rw [ha]; rfl
  have he := ByteArray.utf8Encode_get_utf8Decode? (h := hs)
  simp only [ha, Option.get_some] at he
  simpa [List.utf8Encode, bytes] using congrArg (fun b : ByteArray => b.data.toList) he

theorem ofBytes?_eq_some_iff {bs : List UInt8} {t : Text} : ofBytes? bs = some t ↔ bytes t = bs := by
  constructor
  · exact bytes_of_ofBytes?
  · rintro rfl
    exact ofBytes?_bytes t

/-- Two texts with one UTF-8 form are the same text. -/
theorem bytes_injective {s t : Text} (h : bytes s = bytes t) : s = t := by
  have := ofBytes?_bytes s
  rw [h, ofBytes?_bytes] at this
  exact (Option.some.inj this).symm

/-! ## ASCII characters -/

/-- An ASCII character is one byte. -/
theorem utf8EncodeChar_of_lt {c : Char} (h : c.toNat < 128) : String.utf8EncodeChar c = [UInt8.ofNat c.toNat] := by
  have hle : c.val.toNat ≤ 127 := Nat.le_of_lt_succ h
  unfold String.utf8EncodeChar
  dsimp only
  rw [if_pos hle]
  rfl

/-- No other character has the byte of an ASCII character in its UTF-8 form. -/
theorem ofNat_not_mem_utf8EncodeChar {c d : Char} (hd : d.toNat < 128) (h : c ≠ d) :
    UInt8.ofNat d.toNat ∉ String.utf8EncodeChar c := by
  have hval : c.val.toNat ≠ d.toNat := fun e => h (Char.ext (UInt32.toNat_inj.1 e))
  have hbyte (n : Nat) : UInt8.ofNat d.toNat = UInt8.ofNat n ↔ n % 256 = d.toNat := by
    rw [← UInt8.toNat_inj, UInt8.toNat_ofNat', UInt8.toNat_ofNat']
    omega
  unfold String.utf8EncodeChar
  dsimp only
  split
  · simp only [List.mem_singleton, hbyte]
    omega
  · -- every byte of a longer form is at least 128
    split
    · simp only [List.mem_cons, List.not_mem_nil, or_false, hbyte]
      omega
    · split <;> simp only [List.mem_cons, List.not_mem_nil, or_false, hbyte] <;> omega

end Text

end PageHarvest
