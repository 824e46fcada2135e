import TezosNode.Client.Failure
import TezosNode.Body.Feed

/-!
One request on its way, as a machine that is looked at from time to time. Each look is one step: it
sees whether the request was cancelled, how much of the reply has come, and whether the receiver can
take a value. A delivery looks for cancellation first in every step, so that nothing is taken or
delivered after it.
-/

namespace TezosNode.Client

open Decode Body

inductive Purpose where
  | single
  | none
  | delivery
  deriving DecidableEq, Repr, Inhabited

structure Reply where
  status : Nat
  contentType : Option String
  body : List Body.Event
  deriving DecidableEq, Repr, Inhabited

inductive Exchange where
  | failed
  | reply (reply : Reply)
  deriving DecidableEq, Repr, Inhabited

inductive Room where
  | free
  | full
  | gone
  deriving DecidableEq, Repr, Inhabited

/-- What one look at a request sees. -/
structure Look where
  cancelled : Bool := false
  /-- The time limit of a request for a single answer is over. -/
  expired : Bool := false
  answered : Bool := false
  /-- How many more events of the body are there. -/
  ready : Nat := 0
  room : Room := .free
  deriving DecidableEq, Repr, Inhabited

/-- How a request ends; there is a value only where one was asked for and sent. -/
abbrev Outcome (α : Type) := Except Failure (Option α)

inductive Stage (α : Type) where
  | sent
  | refusing (status : Nat) (contentType : Option String) (bytes : Bytes)
  | collecting (bytes : Bytes)
  | reading (feed : Feed)
  | offering (feed : Feed) (value : α)
  | ended (outcome : Outcome α)
  deriving Inhabited

inductive Signal (α : Type) where
  | headers (status : Nat)
  | delivered (value : α)
  | complete (outcome : Except Failure Unit)
  deriving Inhabited

structure Transfer (α : Type) where
  purpose : Purpose
  stage : Stage α := .sent
  /-- The events of the body that were not taken. -/
  rest : List Body.Event := []
  deriving Inhabited

inductive Collected where
  | whole (bytes : Bytes)
  | part (bytes : Bytes)
  | broken
  deriving DecidableEq, Repr, Inhabited

namespace Collected

/-- Collects a body. One that breaks or is cut off is of no use. -/
def add (bytes : Bytes) : List Body.Event → Collected
  | [] => part bytes
  | .chunk more :: events => add (bytes ++ more) events
  | .finished :: _ => whole bytes
  | .cutOff :: _ | .failed _ :: _ => broken

end Collected

def isNoContent (status : Nat) : Bool := status == 204

def isSuccess (status : Nat) : Bool := 200 ≤ status && status < 300

namespace Transfer

variable {α : Type}

def start (purpose : Purpose) : Transfer α := { purpose }

def outcome? (t : Transfer α) : Option (Outcome α) :=
  match t.stage with
  | .ended outcome => some outcome
  | _ => none

/-- The end of a request is told once, without its value. -/
def finish (t : Transfer α) (outcome : Outcome α) : Transfer α × List (Signal α) :=
  ({ t with stage := .ended outcome }, [.complete (outcome.map fun _ => ())])

def fail (t : Transfer α) (failure : Failure) : Transfer α × List (Signal α) := t.finish (.error failure)

def await (t : Transfer α) (stage : Stage α) : Transfer α × List (Signal α) := ({ t with stage }, [])

def collect (t : Transfer α) (look : Look) (bytes : Bytes) : Transfer α × Collected :=
  ({ t with rest := t.rest.drop look.ready }, Collected.add bytes (t.rest.take look.ready))

def stepRefusing (t : Transfer α) (look : Look) (status : Nat) (contentType : Option String)
    (bytes : Bytes) : Transfer α × List (Signal α) :=
  match t.collect look bytes with
  | (t, .whole body) => t.fail (.refused (Refusal.classify status contentType body))
  | (t, .part bytes) => t.await (.refusing status contentType bytes)
  | (t, .broken) => t.fail .transport

def stepCollecting (d : Decoder α) (t : Transfer α) (look : Look) (bytes : Bytes) :
    Transfer α × List (Signal α) :=
  match t.collect look bytes with
  | (t, .whole body) =>
    t.finish <|
      match d.ofText body with
      | .ok a => .ok (some a)
      | .error fault => .error (.decode fault)
  | (t, .part bytes) => t.await (.collecting bytes)
  | (t, .broken) => t.fail .transport

def accept (t : Transfer α) : Transfer α × List (Signal α) :=
  match t.purpose with
  | .single => t.await (.collecting [])
  | .none => t.finish (.ok none)
  | .delivery => t.await (.reading .start)

def sort (t : Transfer α) (look : Look) (reply : Reply) : Transfer α × List (Signal α) :=
  let t := { t with rest := reply.body }
  if isNoContent reply.status then t.finish (.ok none)
  else if isSuccess reply.status then t.accept
  else t.stepRefusing look reply.status reply.contentType []

def stepSent (exchange : Exchange) (t : Transfer α) (look : Look) : Transfer α × List (Signal α) :=
  if look.answered then
    match exchange with
    | .failed => t.fail .transport
    | .reply reply =>
      let (t, signals) := t.sort look reply
      (t, .headers reply.status :: signals)
  else (t, [])

def stepReading (d : Decoder α) (t : Transfer α) (look : Look) (feed : Feed) :
    Transfer α × List (Signal α) :=
  let (answer, feed, left) := feed.next d (t.rest.take look.ready)
  let t := { t with rest := left ++ t.rest.drop look.ready }
  match answer with
  | .value a => t.await (.offering feed a)
  | .ended => t.finish (.ok none)
  | .refused fault => t.fail (.decode fault)
  | .broken reason => t.fail (.body reason)
  | .waiting => t.await (.reading feed)

def stepOffering (t : Transfer α) (look : Look) (feed : Feed) (value : α) :
    Transfer α × List (Signal α) :=
  match look.room with
  | .free => ({ t with stage := .reading feed }, [.delivered value])
  | .full => (t, [])
  | .gone => t.fail .cancelled

def interruption? (t : Transfer α) (look : Look) : Option Failure :=
  match t.purpose with
  | .delivery => if look.cancelled then some .cancelled else none
  | .single | .none => if look.expired then some .transport else none

def step (exchange : Exchange) (d : Decoder α) (t : Transfer α) (look : Look) :
    Transfer α × List (Signal α) :=
  match t.stage, t.interruption? look with
  | .ended _, _ => (t, [])
  | _, some failure => t.fail failure
  | .sent, none => t.stepSent exchange look
  | .refusing status contentType bytes, none => t.stepRefusing look status contentType bytes
  | .collecting bytes, none => t.stepCollecting d look bytes
  | .reading feed, none => t.stepReading d look feed
  | .offering feed value, none => t.stepOffering look feed value

def run (exchange : Exchange) (d : Decoder α) (t : Transfer α) :
    List Look → Transfer α × List (Signal α)
  | [] => (t, [])
  | look :: looks =>
    let (t, signals) := t.step exchange d look
    let (t, more) := run exchange d t looks
    (t, signals ++ more)

end Transfer

def deliveries (signals : List (Signal α)) : List α :=
  signals.filterMap fun
    | .delivered a => some a
    | _ => none

end TezosNode.Client
