import TezosNode.Client.Request
import TezosNode.Time.Duration

namespace TezosNode.Client

inductive VoteQuestion where
  | ballotList
  | ballots
  | listings
  | proposals
  | currentProposal
  | currentQuorum
  | currentPeriodKind
  deriving DecidableEq, Repr, Inhabited

namespace VoteQuestion

def name : VoteQuestion → String
  | ballotList => "ballot_list"
  | ballots => "ballots"
  | listings => "listings"
  | proposals => "proposals"
  | currentProposal => "current_proposal"
  | currentQuorum => "current_quorum"
  | currentPeriodKind => "current_period_kind"

end VoteQuestion

inductive Endpoint where
  | networkStats
  | networkConnections
  | networkPeers (filter : Option String)
  | networkPeer (id : String)
  | banPeer (id : String)
  | trustPeer (id : String)
  | peerBanned (id : String)
  | peerLog (id : String)
  | monitorPeerLog (id : String)
  | networkPoints (filter : Option String)
  | networkPoint (address : String)
  | connectPoint (address : String) (timeout : Option Time.Duration)
  | banPoint (address : String)
  | trustPoint (address : String)
  | pointBanned (address : String)
  | pointLog (address : String)
  | monitorPointLog (address : String)
  | delegateBalance (chain block delegate : String)
  | contractBalance (chain block contract : String)
  | monitorBootstrapped
  | isBootstrapped (chain : String)
  | pendingOperations (chain : String)
  | monitorOperations (chain : String) (pool : Option String)
  | invalidBlocks (chain : String)
  | block (chain block : String)
  | monitorHeads (chain : String)
  | votes (chain block : String) (question : VoteQuestion)
  deriving DecidableEq, Repr, Inhabited

inductive Segment where
  | fixed (name : String)
  | argument (text : String)
  deriving DecidableEq, Repr, Inhabited

namespace Segment

def text : Segment → String
  | fixed name => name
  | argument text => text

end Segment

namespace Endpoint

open Segment

def peer (id : String) (more : List Segment) : List Segment :=
  fixed "network" :: fixed "peers" :: argument id :: more

def point (address : String) (more : List Segment) : List Segment :=
  fixed "network" :: fixed "points" :: argument address :: more

def onChain (chain : String) (more : List Segment) : List Segment :=
  fixed "chains" :: argument chain :: more

def onBlock (chain blockId : String) (more : List Segment) : List Segment :=
  onChain chain (fixed "blocks" :: argument blockId :: more)

def segments : Endpoint → List Segment
  | networkStats => [fixed "network", fixed "stat"]
  | networkConnections => [fixed "network", fixed "connections"]
  | networkPeers _ => [fixed "network", fixed "peers"]
  | networkPeer id => peer id []
  | banPeer id => peer id [fixed "ban"]
  | trustPeer id => peer id [fixed "trust"]
  | peerBanned id => peer id [fixed "banned"]
  | peerLog id | monitorPeerLog id => peer id [fixed "log"]
  | networkPoints _ => [fixed "network", fixed "points"]
  | networkPoint address | connectPoint address _ => point address []
  | banPoint address => point address [fixed "ban"]
  | trustPoint address => point address [fixed "trust"]
  | pointBanned address => point address [fixed "banned"]
  | pointLog address | monitorPointLog address => point address [fixed "log"]
  | delegateBalance chain blockId delegate =>
    onBlock chain blockId [fixed "context", fixed "delegates", argument delegate, fixed "balance"]
  | contractBalance chain blockId contract =>
    onBlock chain blockId [fixed "context", fixed "contracts", argument contract, fixed "balance"]
  | monitorBootstrapped => [fixed "monitor", fixed "bootstrapped"]
  | isBootstrapped chain => onChain chain [fixed "is_bootstrapped"]
  | pendingOperations chain => onChain chain [fixed "mempool", fixed "pending_operations"]
  | monitorOperations chain _ => onChain chain [fixed "mempool", fixed "monitor_operations"]
  | invalidBlocks chain => onChain chain [fixed "invalid_blocks"]
  | block chain blockId => onBlock chain blockId []
  | monitorHeads chain => [fixed "monitor", fixed "heads", argument chain]
  | votes chain blockId question => onBlock chain blockId [fixed "votes", fixed question.name]

def path (e : Endpoint) : String := String.join (e.segments.map fun s => "/" ++ s.text)

def optionalParameter (parameter : String → Url.Parameter) : Option String → List Url.Parameter
  | some text => if text = "" then [] else [parameter text]
  | none => []

def timeoutParameter : Option Time.Duration → List Url.Parameter
  | some d => if d.nanoseconds = 0 then [] else [⟨"timeout", some d.secondsText⟩]
  | none => []

def parameters : Endpoint → List Url.Parameter
  | networkPeers filter | networkPoints filter => optionalParameter (⟨"filter", some ·⟩) filter
  | monitorOperations _ pool => optionalParameter (⟨·, some "true"⟩) pool
  | connectPoint _ timeout => timeoutParameter timeout
  | monitorPeerLog _ | monitorPointLog _ => [⟨"monitor", none⟩]
  | _ => []

/-- Only a connection is asked for with a body, an empty object. -/
def request (e : Endpoint) : Request :=
  match e with
  | connectPoint _ _ => ⟨"PUT", e.path, e.parameters, some (.object [])⟩
  | _ => ⟨"GET", e.path, e.parameters, none⟩

end Endpoint

end TezosNode.Client
