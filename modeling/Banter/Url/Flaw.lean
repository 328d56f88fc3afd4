/-! What can be wrong with a URL. -/
namespace Banter.Url

inductive Flaw where
  | empty
  | emptyHost
  | badDomain
  | badPort
  | badIpv4
  | badIpv6
  | badDomainCharacter
  | noBase
  deriving DecidableEq, Repr

def Flaw.message : Flaw → String
  | empty => "input is empty"
  | emptyHost => "empty host"
  | badDomain => "invalid international domain name"
  | badPort => "invalid port number"
  | badIpv4 => "invalid IPv4 address"
  | badIpv6 => "invalid IPv6 address"
  | badDomainCharacter => "invalid domain character"
  | noBase => "relative URL without a base"

end Banter.Url
