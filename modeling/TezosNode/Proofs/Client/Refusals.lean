import TezosNode.Proofs.Client.Delivery
import TezosNode.Proofs.Model.ErrorTexts

namespace TezosNode.Client

open Decode Body Json

namespace Refusal

end Refusal

section

variable {α : Type} {status : Nat} {contentType : Option String} {chunks : List Bytes}

/-- How far a request has come whose reply is refused. -/
inductive Declines (status : Nat) (contentType : Option String) (chunks : List Bytes) :
    Stage α → List Body.Event → Prop where
  | sent {rest} : Declines status contentType chunks .sent rest
  | refusing {bytes rest} : rest.length ≤ chunks.length + 1 →
      Collected.add bytes rest = .whole chunks.flatten →
      Declines status contentType chunks (.refusing status contentType bytes) rest
  | ended {rest} : Declines status contentType chunks
      (.ended (.error (.refused (Refusal.classify status contentType chunks.flatten)))) rest

namespace Transfer

end Transfer

theorem Declines.outcome {t : Transfer α} {outcome : Outcome α}
    (declines : Declines status contentType chunks t.stage t.rest)
    (ended : t.outcome? = some outcome) :
    outcome = .error (.refused (Refusal.classify status contentType chunks.flatten)) := by
  rcases t with ⟨purpose, stage, rest⟩
  cases declines with
  | ended =>
    cases ended
    rfl
  | _ => cases ended

end

end TezosNode.Client
