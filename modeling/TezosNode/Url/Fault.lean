namespace TezosNode.Url

inductive UrlFault where
  | emptyHost
  | badDomain
  | badPort
  | badIpv4
  | badIpv6
  | badHostCharacter
  | relativeWithoutBase
  | relativeToPlainPath
  deriving DecidableEq, Repr, Inhabited

namespace UrlFault

def message : UrlFault → String
  | emptyHost => "empty host"
  | badDomain => "invalid international domain name"
  | badPort => "invalid port number"
  | badIpv4 => "invalid IPv4 address"
  | badIpv6 => "invalid IPv6 address"
  | badHostCharacter => "invalid domain character"
  | relativeWithoutBase => "relative URL without a base"
  | relativeToPlainPath => "relative URL with a cannot-be-a-base base"

end UrlFault

end TezosNode.Url
