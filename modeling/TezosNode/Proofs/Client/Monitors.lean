import TezosNode.Client.Service
import TezosNode.Proofs.Body.Bare

namespace TezosNode

open Decode Json Decoder

namespace SyncState

theorem closed_of_oneMember {others : List (Literal × Document)} {ending : ObjectEnd}
    (ended : sound (oneMember others ending) = .ok ()) : others = [] ∧ ending = .closed := by
  cases others with
  | nil =>
    cases ending with
    | closed => exact ⟨rfl, rfl⟩
    | _ => cases ended
  | cons other others => cases ending <;> cases ended

theorem skips_of_decodeText {room : Nat} {members : List (Literal × Document)} {ending : ObjectEnd}
    {state : SyncState} (coherent : Document.MembersCoherent members)
    (decoded : decodeText (.text room) members ending = .ok state) :
    (Document.object members ending).skip = .ok () := by
  cases members with
  | nil => cases decoded
  | cons member others =>
    obtain ⟨literal, value⟩ := member
    obtain ⟨name, known, decoded⟩ := bind_ok decoded
    obtain ⟨_, passed, decoded⟩ := bind_ok decoded
    obtain ⟨_, ended, _⟩ := bind_ok decoded
    obtain ⟨rfl, rfl⟩ := closed_of_oneMember ended
    have key := skipped_of_text coherent.1 known
    have null := Attentive.skips coherent.2.1 passed
    exact Document.skip_object_iff.mpr ⟨by simp [key, null], rfl⟩

instance : Attentive decoder := by
  constructor
  intro room document state coherent decoded
  cases document with
  | string literal =>
    obtain ⟨name, known, _⟩ := map_ok decoded
    exact skipped_of_text coherent known
  | object members ending =>
    obtain ⟨inner, entered, decoded⟩ := bind_ok decoded
    obtain ⟨less, rfl⟩ := enter_text entered
    exact skips_of_decodeText coherent decoded
  | _ => cases decoded

/-- No literal is a state, so the first letter of one is enough. -/
theorem refuses_literals : ¬Body.Awaits decoder ∧ Body.Patient decoder := by
  constructor
  · rintro ⟨fault, refused, cutOff⟩
    cases refused
    cases cutOff
  · refine .inr ⟨.malformed .noValue, rfl, fun document word => ?_⟩
    cases word <;> rfl

end SyncState

namespace Client

/-- A decoder that refuses what is torn and asks for more of a literal that breaks off. -/
def Watchful {α : Type} (d : Decoder α) : Prop := d.Attentive ∧ Body.Awaits d

theorem watchful {α : Type} (d : Decoder α) [attentive : d.Attentive]
    (cutOff : d.decode (.text textRoom) (.broken .wordCutOff) = .error (.malformed .valueCutOff)) :
    Watchful d := ⟨attentive, _, cutOff, rfl⟩

theorem monitors_watchful (id chain : String) (pool : Option String) :
    Watchful (Monitor.peerLog id).decoder ∧ Watchful (Monitor.pointLog id).decoder ∧
      Watchful Monitor.bootstrapped.decoder ∧ Watchful (Monitor.operations chain pool).decoder ∧
      Watchful (Monitor.heads chain).decoder := by
  have state : Attentive PointState.decoder := inferInstanceAs (Attentive (record ..))
  have peers : Attentive PeerLogEntry.decoder := inferInstanceAs (Attentive (flattened ..))
  have points : Attentive PointLogEntry.decoder := inferInstanceAs (Attentive (record ..))
  have block : Attentive BootstrappedBlock.decoder := inferInstanceAs (Attentive (record ..))
  have fields : Operation.fields.Attentive := inferInstanceAs (Fields.Attentive (Fields.orElse ..))
  have operation : Attentive Operation.decoder := inferInstanceAs (Attentive (record ..))
  have head : Attentive BlockHead.decoder := inferInstanceAs (Attentive (record ..))
  exact ⟨watchful PeerLogEntry.decoder.list rfl, watchful PointLogEntry.decoder.list rfl,
    watchful BootstrappedBlock.decoder rfl, watchful Operation.decoder.list rfl,
    watchful BlockHead.decoder rfl⟩

end Client

end TezosNode
