import PageHarvest.Text.Digits
import PageHarvest.Url.Error

/-!
# IPv4 addresses

A domain whose last label is a number is an IPv4 address of up to four numbers. A number is decimal, octal behind a `0`,
or hexadecimal behind `0x`; the last one fills all bytes that the numbers in front of it leave.
-/

namespace PageHarvest.Url.Ipv4

/-- A number of an address. No digits behind a marker of the base make zero. -/
def number? : Text → Option Nat
  | [] => none
  | '0' :: 'x' :: t => Text.digits? 16 t
  | '0' :: 'X' :: t => Text.digits? 16 t
  | '0' :: c :: t => Text.digits? 8 (c :: t)
  | t => Text.digits? 10 t

/-- The labels of a domain, without the empty one behind a last dot. -/
def labels (domain : Text) : List Text :=
  let parts := domain.splitOn '.'
  if parts.getLast? = some [] then parts.dropLast else parts

/-- Is the last label of a domain a number? -/
def endsInNumber (domain : Text) : Bool :=
  match (labels domain).getLast? with
  | none => false
  | some last => (!last.isEmpty && last.all Char.isDigit) || (number? last).isSome

/-- The value of the numbers in front of the last one: each is a byte, the first one the highest. -/
def upperBytes? : Nat → List Nat → Option Nat
  | _, [] => some 0
  | place, n :: ns => if n ≤ 255 then (upperBytes? (place - 1) ns).map (n * Nat.pow 256 place + ·) else none

/-- The address of the numbers in a domain. -/
def ofNumbers? (ns : List Nat) : Option Nat :=
  match ns.getLast? with
  | none => none
  | some last =>
    let upper := ns.dropLast
    if ns.length ≤ 4 && last < Nat.pow 256 (4 - upper.length) then (upperBytes? 3 upper).map (· + last) else none

/-- The address that a domain ending in a number stands for. -/
def parse (domain : Text) : Except Error Nat :=
  match ((labels domain).mapM number?).bind ofNumbers? with
  | some n => .ok n
  | none => .error .invalidIpv4

/-- The four bytes of an address in decimal, with dots between them. -/
def print (n : Nat) : Text :=
  s!"{n / 16777216 % 256}.{n / 65536 % 256}.{n / 256 % 256}.{n % 256}".toList

end PageHarvest.Url.Ipv4
