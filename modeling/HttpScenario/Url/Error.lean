/-! Why a text is no URL. -/

namespace HttpScenario.Url

inductive Error
  | emptyHost
  | internationalName
  | invalidPort
  | invalidIpv4
  | invalidIpv6
  | invalidHostCharacter
  | relativeWithoutBase
  | relativeToRootless
deriving DecidableEq

def Error.message : Error → String
  | emptyHost => "empty host"
  | internationalName => "invalid international domain name"
  | invalidPort => "invalid port number"
  | invalidIpv4 => "invalid IPv4 address"
  | invalidIpv6 => "invalid IPv6 address"
  | invalidHostCharacter => "invalid domain character"
  | relativeWithoutBase => "relative URL without a base"
  | relativeToRootless => "relative URL with a cannot-be-a-base base"

end HttpScenario.Url
