import TezosNode.Client.Refusal
import TezosNode.Url.Fault

namespace TezosNode.Client

open Decode

inductive SettingFault where
  | unsupportedScheme (scheme base : String)
  | badTimeout (text : String)
  deriving DecidableEq, Repr, Inhabited

namespace SettingFault

def message : SettingFault → String
  | unsupportedScheme scheme base => "unsupported URL scheme " ++ Text.quote scheme ++ " in " ++ base
  | badTimeout text => "TEZOS_RPC_TIMEOUT_MS is not a number: " ++ Text.quote text

end SettingFault

inductive EncodeFault where
  | keyNotText
  deriving DecidableEq, Repr, Inhabited

namespace EncodeFault

def message : EncodeFault → String
  | keyNotText => "key must be a string"

end EncodeFault

inductive Failure where
  | settings (fault : SettingFault)
  | badUrl (fault : Url.UrlFault)
  | encode (fault : EncodeFault)
  /-- No reply, or none whose body is whole. -/
  | transport
  /-- A streamed body broke. -/
  | body (reason : String)
  | decode (fault : Fault)
  | refused (refusal : Refusal)
  | noContent (path : String)
  | cancelled
  deriving Repr, Inhabited

namespace Failure

def isDecode : Failure → Bool
  | decode _ => true
  | _ => false

def message : Failure → String
  | settings fault => "Invalid configuration: " ++ fault.message
  | badUrl fault => "Invalid URL: " ++ fault.message
  | encode fault => "Error encoding request body: " ++ fault.message
  | transport => "HTTP transport error"
  | body reason => "Error reading response body: " ++ reason
  | decode fault => "Error decoding response: " ++ fault.message
  | refused refusal => refusal.message
  | noContent path => "No content returned for " ++ path
  | cancelled => "Request cancelled"

end Failure

end TezosNode.Client
