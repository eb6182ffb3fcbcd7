import PageHarvest.Text.Basic

/-!
# Percent encoding in addresses

Each part of an address has its own set of ASCII characters that must not stand in it as they are. They, and all
characters that are not ASCII, are written byte by byte as `%` and two hexadecimal digits.
-/

namespace PageHarvest.Url

/-- A set of ASCII characters that are to be encoded. -/
abbrev EncodeSet := Char → Bool

/-- Controls, the delete character included. -/
def controlSet : EncodeSet := fun c => c.toNat < 0x20 || c.toNat == 0x7f

/-- What is encoded in a fragment. -/
def fragmentSet : EncodeSet := fun c => controlSet c || c ∈ [' ', '"', '<', '>', '\x60']

/-- What is encoded in the query of a web address. -/
def querySet : EncodeSet := fun c => controlSet c || c ∈ [' ', '"', '#', '<', '>', '\'']

/-- What is encoded in a path. -/
def pathSet : EncodeSet := fun c => fragmentSet c || c ∈ ['#', '?', '\x7b', '\x7d']

/-- What is encoded in a user name or a password. -/
def userinfoSet : EncodeSet := fun c => pathSet c || c ∈ ['/', ':', ';', '=', '@', '[', '\\', ']', '^', '|']

/-- An upper-case hexadecimal digit. -/
def hexDigit (n : Nat) : Char := (Nat.digitChar n).toUpper

/-- A byte as `%` and two digits. -/
def encodeByte (b : UInt8) : Text := ['%', hexDigit (b.toNat / 16), hexDigit (b.toNat % 16)]

/-- A text with the characters of a set, and all that are not ASCII, encoded. -/
def encode (set : EncodeSet) (t : Text) : Text :=
  t.flatMap fun c => if c.toNat < 0x80 && !set c then [c] else (Text.bytes [c]).flatMap encodeByte

end PageHarvest.Url
