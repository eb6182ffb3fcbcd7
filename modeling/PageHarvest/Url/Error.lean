/-!
# Faults of addresses
-/

namespace PageHarvest.Url

/-- Why a text is not an address. -/
inductive Error where
  | emptyHost
  | invalidName
  | invalidPort
  | invalidIpv4
  | invalidIpv6
  | invalidHostCharacter
  | noScheme
  deriving DecidableEq, Repr

/-- The wording of a fault. -/
def Error.message : Error → String
  | .emptyHost => "empty host"
  | .invalidName => "invalid international domain name"
  | .invalidPort => "invalid port number"
  | .invalidIpv4 => "invalid IPv4 address"
  | .invalidIpv6 => "invalid IPv6 address"
  | .invalidHostCharacter => "invalid domain character"
  | .noScheme => "relative URL without a base"

end PageHarvest.Url
