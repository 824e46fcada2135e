import TezosNode.Client.Message

namespace TezosNode.Client

structure Call where
  id : UInt64
  method : String
  url : Url
  deriving DecidableEq, Repr, Inhabited

inductive Hook where
  | headers (call : Call) (status : Nat)
  | complete (call : Call) (outcome : Except Failure Unit)
  deriving Inhabited

namespace Call

def hook? (call : Call) : Signal α → Option Hook
  | .headers status => some (.headers call status)
  | .delivered _ => none
  | .complete outcome => some (.complete call outcome)

def hooks (call : Call) (signals : List (Signal α)) : List Hook := signals.filterMap call.hook?

end Call

/-- Begins a request under the number given, and gives the number for the next one. -/
def begin (c : Client) (next : UInt64) (request : Request) : Except Failure Call × UInt64 :=
  match request.url c.base with
  | .ok url => (.ok ⟨next, request.method, url⟩, next + 1)
  | .error fault => (.error (.badUrl fault), next)

end TezosNode.Client
