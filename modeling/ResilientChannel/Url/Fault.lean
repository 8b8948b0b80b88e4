/-!
Why a text is not a URL.
-/

namespace ResilientChannel.Url

/-- The ways in which a text can fail to be a URL. -/
inductive Fault
  | relativeWithoutBase
  | emptyHost
  | invalidPort
  | invalidIpv4
  | invalidIpv6
  | invalidDomainName
  | invalidDomainCharacter
deriving DecidableEq, Repr, Inhabited

/-- The wording of a fault. -/
def Fault.message : Fault → String
  | relativeWithoutBase => "relative URL without a base"
  | emptyHost => "empty host"
  | invalidPort => "invalid port number"
  | invalidIpv4 => "invalid IPv4 address"
  | invalidIpv6 => "invalid IPv6 address"
  | invalidDomainName => "invalid international domain name"
  | invalidDomainCharacter => "invalid domain character"

end ResilientChannel.Url
