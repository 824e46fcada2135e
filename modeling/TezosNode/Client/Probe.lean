import TezosNode.Client.Transfer

/-!
The first value of a delivery, if one comes in time. The delivery puts values into a slot for one, and
is cancelled by the caller or by a deadline. The slot and the delivery may be looked at in any order.
Of the two ways to be cancelled only the caller's is a failure; after a deadline what is in the slot is
the answer.
-/

namespace TezosNode.Client

open Decode

structure Probe (α : Type) where
  transfer : Transfer α := .start .delivery
  slot : Option α := none
  answer : Option (Outcome α) := none

inductive Probe.Move where
  | slot
  /-- `caller` says whether the caller has cancelled, `callerAfter` whether it has right after. -/
  | delivery (caller deadline callerAfter answered : Bool) (ready : Nat)
  deriving DecidableEq, Repr, Inhabited

namespace Probe

variable {α : Type}

def start : Probe α := {}

/-- The slot takes a value only while it is empty. -/
def room (p : Probe α) : Room := if p.slot.isSome then .full else .free

def conclude (slot : Option α) (callerAfter : Bool) : Outcome α → Outcome α
  | .ok _ => .ok slot
  | .error .cancelled => if callerAfter then .error .cancelled else .ok slot
  | .error failure => .error failure

def stepDelivery (exchange : Exchange) (d : Decoder α) (p : Probe α) (look : Look)
    (callerAfter : Bool) : Probe α × List (Signal α) :=
  let (transfer, signals) := p.transfer.step exchange d look
  let slot := (deliveries signals).head?.or p.slot
  ({ transfer, slot, answer := transfer.outcome?.map (conclude slot callerAfter) }, signals)

/-- One look. With an answer the probe is over, and the delivery is let go as it is. -/
def step (exchange : Exchange) (d : Decoder α) (p : Probe α) (move : Move) :
    Probe α × List (Signal α) :=
  match p.answer, move with
  | some _, _ => (p, [])
  | none, .slot => ({ p with answer := p.slot.map fun a => .ok (some a) }, [])
  | none, .delivery caller deadline callerAfter answered ready =>
    p.stepDelivery exchange d
      { cancelled := caller || deadline, answered, ready, room := p.room } callerAfter

def run (exchange : Exchange) (d : Decoder α) (p : Probe α) : List Move → Probe α × List (Signal α)
  | [] => (p, [])
  | move :: moves =>
    let (p, signals) := p.step exchange d move
    let (p, more) := run exchange d p moves
    (p, signals ++ more)

end Probe

end TezosNode.Client
