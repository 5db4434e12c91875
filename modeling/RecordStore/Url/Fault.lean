/-
RecordStore.Url.Fault -- why a text is not a URL
-/

namespace RecordStore.Url

set_option autoImplicit false

inductive Fault
  | relativeWithoutBase
  | invalidPort
  | emptyHost
  | invalidDomainName
  | invalidDomainCharacter
  | invalidIpv4
  | invalidIpv6
  deriving DecidableEq

def Fault.message : Fault → String
  | .relativeWithoutBase => "relative URL without a base"
  | .invalidPort => "invalid port number"
  | .emptyHost => "empty host"
  | .invalidDomainName => "invalid international domain name"
  | .invalidDomainCharacter => "invalid domain character"
  | .invalidIpv4 => "invalid IPv4 address"
  | .invalidIpv6 => "invalid IPv6 address"

end RecordStore.Url
