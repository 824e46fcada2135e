import TezosNode.Url.Domain
import TezosNode.Url.Ipv6

namespace TezosNode.Url

inductive Host where
  | domain (name : List Char)
  | ipv4 (address : UInt32)
  | ipv6 (groups : List UInt16)
  deriving DecidableEq, Repr, Inhabited

namespace Host

def text : Host → List Char
  | domain name => name
  | ipv4 address => ipv4Text address
  | ipv6 groups => '[' :: ipv6Text groups ++ [']']

def orIpv6 (cs : List Char) (other : Except UrlFault Host) : Except UrlFault Host :=
  match cs with
  | '[' :: inner =>
    if inner.getLast? = some ']' then (readIpv6 inner.dropLast).map ipv6 else .error .badIpv6
  | _ => other

def read (cs : List Char) : Except UrlFault Host :=
  orIpv6 cs <| do
    let name ← readDomain (percentDecode (Bytes.ofString (String.ofList cs)))
    if endsInNumber name then (readIpv4 name).map ipv4 else pure (domain name)

def isForbiddenAnywhere (c : Char) : Bool :=
  c == '\x00' || c == '\t' || c == '\n' || c == '\r' || c == ' ' || c == '#' || c == '/' || c == ':' ||
    c == '<' || c == '>' || c == '?' || c == '@' || c == '[' || c == '\\' || c == ']' || c == '^' ||
    c == '|'

def readOther (cs : List Char) : Except UrlFault Host :=
  orIpv6 cs <|
    if cs.any isForbiddenAnywhere then .error .badHostCharacter
    else pure (domain (percentEncode isControl cs))

end Host

end TezosNode.Url
