import TezosNode.Model.Network
import TezosNode.Model.Operation
import TezosNode.Proofs.Decode.Pairs

namespace TezosNode

open Decode Json Decoder

/-- A pair takes the first two of at least two items, and of two that are refused the first one is named.
A record behind its key differs from the record alone in this one field. -/
theorem key_put_in :
    (∀ {α β : Type} (first : Decoder α) (second : Decoder β) (v : Value), PairLaws first second v) ∧
    (∀ length, (Fault.shortPair length).message =
      "JSON array is too short, expected 2, got " ++ Nat.repr length) ∧
    (∀ index m, (Fault.position index m).message =
      "array element " ++ Nat.repr index ++ ": " ++ m.message) ∧
    (∀ {α : Type} (setKey : String → α → α) (record : Decoder α) (v : Value) (fault : Fault),
      (keyed setKey record).ofValue v = .error fault ↔ Unpaired text record v fault) ∧
    ∀ (key : String) (o : Value) (rest : List Value),
      (keyed Operation.setHash Operation.decoder).ofValue (.array (.string key :: o :: rest)) =
        ((Operation.decoder.ofValue o.sorted).mapError (.position 1)).map
          (fun x => { x with hash := key }) ∧
      (keyed RefusedOperation.setHash RefusedOperation.decoder).ofValue (.array (.string key :: o :: rest)) =
        ((RefusedOperation.decoder.ofValue o.sorted).mapError (.position 1)).map
          (fun x => { x with operation := { x.operation with hash := key } }) ∧
      (keyed Peer.setId Peer.decoder).ofValue (.array (.string key :: o :: rest)) =
        ((Peer.decoder.ofValue o.sorted).mapError (.position 1)).map (fun x => { x with peerId := key }) ∧
      (keyed Point.setAddress Point.decoder).ofValue (.array (.string key :: o :: rest)) =
        ((Point.decoder.ofValue o.sorted).mapError (.position 1)).map
          (fun x => { x with address := key }) := by
  refine ⟨pairLaws, fun _ => rfl, fun _ _ => rfl, fun setKey record v fault => ?_, fun key o rest => ?_⟩
  · exact keyed_error_iff Source.value_boundless
  · have behind {α : Type} (setKey : String → α → α) (record : Decoder α) :=
      keyed_behind setKey record Source.value_boundless key o rest
    exact ⟨behind _ _, behind _ _, behind _ _, behind _ _⟩

end TezosNode
