/-!
Why a text is no URL.
-/

namespace PaymentConnector.Url

inductive Fault
  | emptyInput
  | emptyHost
  | relativeWithoutBase
  | invalidDomain
  | invalidDomainCharacter
  | invalidPort
  | invalidIpv4
  | invalidIpv6
  deriving DecidableEq, Repr

def Fault.message : Fault → String
  | emptyInput => "input is empty"
  | emptyHost => "empty host"
  | relativeWithoutBase => "relative URL without a base"
  | invalidDomain => "invalid international domain name"
  | invalidDomainCharacter => "invalid domain character"
  | invalidPort => "invalid port number"
  | invalidIpv4 => "invalid IPv4 address"
  | invalidIpv6 => "invalid IPv6 address"

end PaymentConnector.Url
