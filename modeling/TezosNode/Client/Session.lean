import TezosNode.Client.Call

/-!
Many requests through the copies of one client, begun and looked at in any order. The copies share the
count of requests and the observer.
-/

namespace TezosNode.Client

open Decode

structure Running (α : Type) where
  call : Call
  exchange : Exchange
  decoder : Decoder α
  transfer : Transfer α

structure Session (α : Type) where
  client : Client
  next : UInt64 := 0
  requests : List (Running α) := []
  told : List Hook := []

inductive Act (α : Type) where
  | begin (purpose : Purpose) (request : Request) (decoder : Decoder α) (exchange : Exchange)
  | look (index : Nat) (look : Look)

namespace Running

def step (r : Running α) (look : Look) : Running α × List Hook :=
  let (transfer, signals) := r.transfer.step r.exchange r.decoder look
  ({ r with transfer }, r.call.hooks signals)

end Running

namespace Session

variable {α : Type}

def start (client : Client) : Session α := { client }

def act (s : Session α) : Act α → Session α
  | .begin purpose request decoder exchange =>
    match s.client.begin s.next request with
    | (.ok call, next) =>
      { s with next, requests := s.requests ++ [⟨call, exchange, decoder, .start purpose⟩] }
    | (.error _, next) => { s with next }
  | .look index look =>
    match s.requests[index]? with
    | some r =>
      let (r, hooks) := r.step look
      { s with requests := s.requests.set index r, told := s.told ++ hooks }
    | none => s

def run (s : Session α) (acts : List (Act α)) : Session α := acts.foldl act s

end Session

end TezosNode.Client
