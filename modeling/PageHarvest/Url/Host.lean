import PageHarvest.Text.Percent
import PageHarvest.Url.Domain
import PageHarvest.Url.Ipv6

/-!
# Hosts

The host of an address is a domain name, an IPv4 address or, between brackets, an IPv6 address. In an address whose
scheme is not one of the well-known ones it is an opaque name instead, in which only some characters are refused.
-/

namespace PageHarvest.Url

/-- The host of an address with a well-known scheme. -/
inductive Host where
  | domain (name : Text)
  | ipv4 (address : Nat)
  | ipv6 (pieces : List Nat)
  deriving DecidableEq, Repr

namespace Host

/-- The written form of a host. -/
def print : Host → Text
  | .domain name => name
  | .ipv4 address => Ipv4.print address
  | .ipv6 pieces => '[' :: (Ipv6.print pieces ++ [']'])

/-- The address between brackets, the first of which has been read. -/
def parseBracketed (t : Text) : Except Error (List Nat) :=
  if t.getLast? = some ']' then Ipv6.parse t.dropLast else .error .invalidIpv6

/-- Reads a host. -/
def parse (t : Text) : Except Error Host :=
  match t with
  | '[' :: rest => (parseBracketed rest).map .ipv6
  | _ =>
    match Domain.toAscii? (Percent.decodeLoosely (Text.bytes t)) with
    | none => .error .invalidName
    | some [] => .error .emptyHost
    | some name => if Ipv4.endsInNumber name then (Ipv4.parse name).map .ipv4 else .ok (.domain name)

/-- May a character not stand in an opaque host? -/
def isForbidden (c : Char) : Bool :=
  c ∈ ['\x00', '\t', '\n', '\r', ' ', '#', '/', ':', '<', '>', '?', '@', '[', '\\', ']', '^', '|']

/-- Checks an opaque host. -/
def checkOpaque (t : Text) : Except Error Unit :=
  match t with
  | '[' :: rest => (parseBracketed rest).map fun _ => ()
  | _ => if t.any isForbidden then .error .invalidHostCharacter else .ok ()

end Host

end PageHarvest.Url
