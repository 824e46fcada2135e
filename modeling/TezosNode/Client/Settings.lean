import TezosNode.Client.Request
import TezosNode.Text.Blank
import TezosNode.Time.Duration

namespace TezosNode.Client

def defaultBase : String := "http://localhost:8732"

def defaultUserAgent : String := "tezos-rpc/0.1.0"

structure Settings where
  base : String := defaultBase
  userAgent : String := defaultUserAgent
  timeout : Option Time.Duration := none
  isObserved : Bool := false
  deriving DecidableEq, Repr, Inhabited

end TezosNode.Client

namespace TezosNode

structure Client where
  base : Url
  userAgent : String
  timeout : Option Time.Duration
  isObserved : Bool
  deriving DecidableEq, Repr, Inhabited

namespace Client

def isSupported (scheme : List Char) : Bool := scheme = "http".toList || scheme = "https".toList

def ofSettings (s : Settings) : Except Failure Client :=
  match Url.read s.base with
  | .error fault => .error (.badUrl fault)
  | .ok base =>
    if isSupported base.scheme then .ok ⟨base, s.userAgent, s.timeout, s.isObserved⟩
    else .error (.settings (.unsupportedScheme (String.ofList base.scheme) s.base))

/-- A time limit in milliseconds, with blanks around it. -/
def readTimeout (text : String) : Except Failure Time.Duration :=
  match Text.readNatural 18446744073709551615 (Text.trim text.toList) with
  | .ok n => .ok (.ofMilliseconds n)
  | .error _ => .error (.settings (.badTimeout text))

def ofEnvironment (lookup : String → Option String) : Except Failure Client := do
  let timeout ← (lookup "TEZOS_RPC_TIMEOUT_MS").mapM readTimeout
  ofSettings {
    base := (lookup "TEZOS_RPC_URL").getD defaultBase
    userAgent := (lookup "TEZOS_RPC_USER_AGENT").getD defaultUserAgent
    timeout }

def timeoutText : Option Time.Duration → String
  | some d => "Some(" ++ d.text ++ ")"
  | none => "None"

def description (c : Client) : String :=
  "RpcClient \x7b url: " ++ Text.quote c.base.text ++ ", user_agent: " ++ Text.quote c.userAgent ++
    ", timeout: " ++ timeoutText c.timeout ++ ", observer: " ++
    (if c.isObserved then "true" else "false") ++ " \x7d"

end Client

end TezosNode
