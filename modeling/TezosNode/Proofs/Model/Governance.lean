import TezosNode.Model.Vote
import TezosNode.Proofs.Decode.Pairs
import TezosNode.Proofs.Decode.Sheets
import TezosNode.Proofs.Model.RoundTrip

namespace TezosNode

open Decode Json Decoder

theorem Ballot.keeps (b : Ballot) : decoder.Keeps b.toValue b :=
  keeps_full "Ballot" rfl (by decide) <| (Fields.Answers.make _ _)
    |>.required (by rfl) (keeps_text b.pkh)
    |>.required (by rfl) (keeps_text b.ballot)

theorem BallotListing.keeps (l : BallotListing) : decoder.Keeps l.toValue l :=
  keeps_full "BallotListing" rfl (by decide) <| (Fields.Answers.make _ _)
    |>.required (by rfl) (keeps_text l.pkh)
    |>.required (by rfl) (keeps_int64 l.rolls)

theorem Tally.keeps (t : Tally) : decoder.Keeps t.toValue t :=
  keeps_full "Ballots" rfl (by decide) <| (Fields.Answers.make _ _)
    |>.required (by rfl) (keeps_int64 t.yay)
    |>.required (by rfl) (keeps_int64 t.nay)
    |>.required (by rfl) (keeps_int64 t.pass)

theorem PeriodKind.keeps (k : PeriodKind) : decoder.Keeps k.toValue k := (keeps_text k.name).map rfl

namespace Proposal

/-- A proposal as the node sends it. -/
def sent (p : Proposal) : Value := .array [.string p.hash, .integer p.supporters.toInt]

theorem keeps_sent (p : Proposal) : decoder.Keeps p.sent p :=
  (keeps_pair (keeps_text p.hash) (keeps_int64 p.supporters) rfl rfl).map rfl

theorem refuses_object (source : Source) (members : List (String × Value)) :
    decoder.decode source (.ofValue (.object members)) = .error (.wrongType .map .sequence) := by
  have refused : (pair text int64).decode source (.ofValue (.object members)) =
      .error (mismatch .sequence (.ofValue (.object members))) := pair_other text int64 nofun
  simp only [decoder, Decoder.map, refused]
  rfl

end Proposal

/-- What comes back once it is written, and what does not. -/
theorem governance_returns (b : Ballot) (l : BallotListing) (t : Tally) (k : PeriodKind) (p : Proposal) :
    Ballot.decoder.Survives b.toValue b ∧
    BallotListing.decoder.Survives l.toValue l ∧
    Tally.decoder.Survives t.toValue t ∧
    PeriodKind.decoder.Survives k.toValue k ∧
    Proposal.decoder.Survives p.sent p ∧
    (∀ form : Form,
      Proposal.decoder.ofValue (form.apply p.toValue) = .error (.wrongType .map .sequence)) ∧
    Proposal.decoder.ofText (Bytes.ofString p.toValue.render) = .error (.wrongType .map .sequence) := by
  refine ⟨?_, ?_, ?_, ?_, ?_, ?_, ?_⟩
  · exact b.keeps.survives (by simp [Ballot.toValue]) (of_decide_eq_true rfl)
  · exact l.keeps.survives (by simp [BallotListing.toValue]) (of_decide_eq_true rfl)
  · exact t.keeps.survives (by simp [Tally.toValue]) (of_decide_eq_true rfl)
  · exact k.keeps.survives rfl (of_decide_eq_true rfl)
  · have fits : p.sent.isExact = true := by simp [Proposal.sent, Value.isExact, Value.areExact]
    exact p.keeps_sent.survives fits (of_decide_eq_true rfl)
  · intro form
    rw [Proposal.toValue, form.apply_object]
    exact Proposal.refuses_object .value _
  · have fits : p.toValue.isExact = true := by simp [Proposal.toValue]
    rw [ofText_render fits]
    exact Proposal.refuses_object (.text textRoom) _

/-- One vote for a proposal, written and not read again. -/
theorem proposal_lost :
    Proposal.decoder.ofValue (Proposal.mk "h" 1).toValue = .error (.wrongType .map .sequence) ∧
      Proposal.decoder.ofText (Bytes.ofString "\x7b\"proposal_hash\":\"h\",\"supporter_count\":1\x7d") =
        .error (.wrongType .map .sequence) :=
  ⟨rfl, rfl⟩

end TezosNode
