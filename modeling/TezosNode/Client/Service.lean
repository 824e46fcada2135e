import TezosNode.Client.Endpoint
import TezosNode.Model.Block
import TezosNode.Model.Bootstrap
import TezosNode.Model.Network
import TezosNode.Model.Vote

/-!
What each endpoint answers. A question has one answer, and no content is a failure there; an order has
none; a monitor sends values until it ends.
-/

namespace TezosNode.Client

open Decode

structure Question (α : Type) where
  endpoint : Endpoint
  decoder : Decoder α

structure Monitor (α : Type) where
  endpoint : Endpoint
  decoder : Decoder α

namespace Question

def answer (q : Question α) : Except Failure (Option α) → Except Failure α
  | .ok (some a) => .ok a
  | .ok none => .error (.noContent q.endpoint.path)
  | .error failure => .error failure

def networkStats : Question NetworkStats := ⟨.networkStats, NetworkStats.decoder⟩

def networkConnections : Question (List Connection) := ⟨.networkConnections, Connection.decoder.list⟩

def networkPeers (filter : Option String) : Question (List Peer) :=
  ⟨.networkPeers filter, (Decoder.keyed Peer.setId Peer.decoder).list⟩

def networkPeer (id : String) : Question Peer := ⟨.networkPeer id, Peer.decoder.map (Peer.setId id)⟩

def peerBanned (id : String) : Question Bool := ⟨.peerBanned id, Decoder.bool⟩

def peerLog (id : String) : Question (List PeerLogEntry) := ⟨.peerLog id, PeerLogEntry.decoder.list⟩

def networkPoints (filter : Option String) : Question (List Point) :=
  ⟨.networkPoints filter, (Decoder.keyed Point.setAddress Point.decoder).list⟩

def networkPoint (address : String) : Question Point :=
  ⟨.networkPoint address, Point.decoder.map (Point.setAddress address)⟩

def pointBanned (address : String) : Question Bool := ⟨.pointBanned address, Decoder.bool⟩

def pointLog (address : String) : Question (List PointLogEntry) :=
  ⟨.pointLog address, PointLogEntry.decoder.list⟩

def delegateBalance (chain block delegate : String) : Question Amount :=
  ⟨.delegateBalance chain block delegate, Amount.decoder⟩

def contractBalance (chain block contract : String) : Question Amount :=
  ⟨.contractBalance chain block contract, Amount.decoder⟩

def isBootstrapped (chain : String) : Question BootstrappedStatus :=
  ⟨.isBootstrapped chain, BootstrappedStatus.decoder⟩

def pendingOperations (chain : String) : Question Mempool := ⟨.pendingOperations chain, Mempool.decoder⟩

def invalidBlocks (chain : String) : Question (List RefusedBlock) :=
  ⟨.invalidBlocks chain, RefusedBlock.decoder.list⟩

def block (chain block : String) : Question Block := ⟨.block chain block, Block.decoder⟩

def ballotList (chain block : String) : Question (List Ballot) :=
  ⟨.votes chain block .ballotList, Ballot.decoder.list⟩

def ballots (chain block : String) : Question Tally := ⟨.votes chain block .ballots, Tally.decoder⟩

def ballotListings (chain block : String) : Question (List BallotListing) :=
  ⟨.votes chain block .listings, BallotListing.decoder.list⟩

def proposals (chain block : String) : Question (List Proposal) :=
  ⟨.votes chain block .proposals, Proposal.decoder.list⟩

/-- There is no proposal outside of voting. -/
def currentProposal (chain block : String) : Question (Option String) :=
  ⟨.votes chain block .currentProposal, Decoder.text.option⟩

def currentQuorum (chain block : String) : Question Int64 :=
  ⟨.votes chain block .currentQuorum, Decoder.int64⟩

def currentPeriodKind (chain block : String) : Question PeriodKind :=
  ⟨.votes chain block .currentPeriodKind, PeriodKind.decoder⟩

end Question

namespace Monitor

def peerLog (id : String) : Monitor (List PeerLogEntry) :=
  ⟨.monitorPeerLog id, PeerLogEntry.decoder.list⟩

def pointLog (address : String) : Monitor (List PointLogEntry) :=
  ⟨.monitorPointLog address, PointLogEntry.decoder.list⟩

def bootstrapped : Monitor BootstrappedBlock := ⟨.monitorBootstrapped, BootstrappedBlock.decoder⟩

def operations (chain : String) (pool : Option String) : Monitor (List Operation) :=
  ⟨.monitorOperations chain pool, Operation.decoder.list⟩

def heads (chain : String) : Monitor BlockHead := ⟨.monitorHeads chain, BlockHead.decoder⟩

end Monitor

end TezosNode.Client
