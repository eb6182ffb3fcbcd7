import PageHarvest.Text.Basic

/-!
# Percent encoding

In a percent-encoded text `%` with two hexadecimal digits stands for one byte and every other byte for itself.
`Percent.decode?` refuses a `%` without its digits; `Percent.decodeLoosely` leaves it as it is, and `Percent.wellEscaped`
tells whether there is any.
-/

namespace PageHarvest.Percent

/-- The byte `%`. -/
def sign : UInt8 := 0x25

/-- Is the byte a hexadecimal digit of either case? -/
def isHexDigit (b : UInt8) : Bool :=
  (0x30 ≤ b && b ≤ 0x39) || (0x41 ≤ b && b ≤ 0x46) || (0x61 ≤ b && b ≤ 0x66)

/-- Does every `%` introduce two hexadecimal digits? -/
def wellEscaped : List UInt8 → Bool
  | [] => true
  | b :: bs =>
    if b = sign then
      match bs with
      | hi :: lo :: rest => isHexDigit hi && isHexDigit lo && wellEscaped rest
      | _ => false
    else wellEscaped bs

/-- The value of a hexadecimal digit of either case. -/
def hexValue? (b : UInt8) : Option UInt8 :=
  if 0x30 ≤ b && b ≤ 0x39 then some (b - 0x30)
  else if 0x41 ≤ b && b ≤ 0x46 then some (b - 0x37)
  else if 0x61 ≤ b && b ≤ 0x66 then some (b - 0x57)
  else none

/-- The byte that two hexadecimal digits stand for. -/
def pairValue? (hi lo : UInt8) : Option UInt8 :=
  match hexValue? hi, hexValue? lo with
  | some h, some l => some (16 * h + l)
  | _, _ => none

/-- The bytes that percent-encoded bytes stand for, or `none` if a `%` lacks its two digits. -/
def decode? : List UInt8 → Option (List UInt8)
  | [] => some []
  | b :: bs =>
    if b = sign then
      match bs with
      | hi :: lo :: rest =>
        match pairValue? hi lo with
        | some v => (decode? rest).map (v :: ·)
        | none => none
      | _ => none
    else (decode? bs).map (b :: ·)

/-- The bytes that percent-encoded bytes stand for; a `%` without its two digits stands for itself. -/
def decodeLoosely : List UInt8 → List UInt8
  | [] => []
  | b :: bs =>
    if b = sign then
      match bs with
      | hi :: lo :: rest =>
        match pairValue? hi lo with
        | some v => v :: decodeLoosely rest
        | none => b :: decodeLoosely (hi :: lo :: rest)
      | [c] => [b, c]
      | [] => [b]
    else b :: decodeLoosely bs

/-- The text that a percent-encoded text stands for, or `none` if its bytes are not UTF-8. -/
def decodeText? (t : Text) : Option Text := Text.ofBytes? (decodeLoosely (Text.bytes t))

end PageHarvest.Percent
