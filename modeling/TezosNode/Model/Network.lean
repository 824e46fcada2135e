import TezosNode.Decode.Record
import TezosNode.Decode.Elements

namespace TezosNode

open Decode Json

structure NetworkStats where
  bytesSent : Int64
  bytesReceived : Int64
  currentInflow : Int64
  currentOutflow : Int64
  deriving DecidableEq, Repr, Inhabited

namespace NetworkStats

def blank : NetworkStats := ⟨0, 0, 0, 0⟩

def decoder : Decoder NetworkStats :=
  Decoder.record "NetworkStats" <|
    (Fields.make NetworkStats.mk)
      |>.required "total_sent" Decoder.quotedInt64
      |>.required "total_recv" Decoder.quotedInt64
      |>.required "current_inflow" Decoder.int64
      |>.required "current_outflow" Decoder.int64

end NetworkStats

structure Address where
  host : String
  port : UInt16
  deriving DecidableEq, Repr, Inhabited

namespace Address

def fields : Fields Address :=
  (Fields.make Address.mk)
    |>.required "addr" Decoder.text
    |>.orElse "port" Decoder.uint16 0

def decoder : Decoder Address := Decoder.record "NetworkAddress" fields

end Address

structure ProtocolVersion where
  name : String
  major : UInt16
  minor : UInt16
  deriving DecidableEq, Repr, Inhabited

namespace ProtocolVersion

def decoder : Decoder ProtocolVersion :=
  Decoder.record "NetworkVersion" <|
    (Fields.make ProtocolVersion.mk)
      |>.required "name" Decoder.text
      |>.required "major" Decoder.uint16
      |>.required "minor" Decoder.uint16

end ProtocolVersion

structure ConnectionMetadata where
  disableMempool : Bool
  privateNode : Bool
  deriving DecidableEq, Repr, Inhabited

namespace ConnectionMetadata

def decoder : Decoder ConnectionMetadata :=
  Decoder.record "NetworkMetadata" <|
    (Fields.make ConnectionMetadata.mk)
      |>.required "disable_mempool" Decoder.bool
      |>.required "private_node" Decoder.bool

end ConnectionMetadata

structure Connection where
  incoming : Bool
  peerId : String
  idPoint : Address
  remoteSocketPort : UInt16
  versions : List ProtocolVersion
  isPrivate : Bool
  localMetadata : ConnectionMetadata
  remoteMetadata : ConnectionMetadata
  deriving DecidableEq, Repr, Inhabited

namespace Connection

def decoder : Decoder Connection :=
  Decoder.record "NetworkConnection" <|
    (Fields.make Connection.mk)
      |>.required "incoming" Decoder.bool
      |>.required "peer_id" Decoder.text
      |>.required "id_point" Address.decoder
      |>.required "remote_socket_port" Decoder.uint16
      |>.orElse "versions" ProtocolVersion.decoder.list []
      |>.orElse "private" Decoder.bool false
      |>.required "local_metadata" ConnectionMetadata.decoder
      |>.required "remote_metadata" ConnectionMetadata.decoder

end Connection

structure AddressTime where
  address : Address
  timestamp : Time.Instant
  deriving DecidableEq, Repr, Inhabited

namespace AddressTime

def decoder : Decoder AddressTime :=
  (Decoder.pair Address.decoder Decoder.instant).map fun (address, timestamp) => ⟨address, timestamp⟩

end AddressTime

structure Peer where
  /-- Where a peer stands behind its id this is it, and else nothing. -/
  peerId : String
  /-- The bits of a double. -/
  score : UInt64
  trusted : Bool
  connMetadata : Option ConnectionMetadata
  state : String
  reachableAt : Option Address
  stat : NetworkStats
  lastEstablishedConnection : Option AddressTime
  lastSeen : Option AddressTime
  lastFailedConnection : Option AddressTime
  lastRejectedConnection : Option AddressTime
  lastDisconnection : Option AddressTime
  lastMiss : Option AddressTime
  deriving DecidableEq, Repr, Inhabited

namespace Peer

def decoder : Decoder Peer :=
  Decoder.record "NetworkPeer" <|
    (Fields.make (Peer.mk ""))
      |>.orElse "score" Decoder.double 0
      |>.orElse "trusted" Decoder.bool false
      |>.optional "conn_metadata" ConnectionMetadata.decoder
      |>.orElse "state" Decoder.text ""
      |>.optional "reachable_at" Address.decoder
      |>.orElse "stat" NetworkStats.decoder .blank
      |>.optional "last_established_connection" AddressTime.decoder
      |>.optional "last_seen" AddressTime.decoder
      |>.optional "last_failed_connection" AddressTime.decoder
      |>.optional "last_rejected_connection" AddressTime.decoder
      |>.optional "last_disconnection" AddressTime.decoder
      |>.optional "last_miss" AddressTime.decoder

def setId (peerId : String) (p : Peer) : Peer := { p with peerId }

end Peer

structure PeerLogEntry where
  address : Address
  kind : String
  timestamp : Time.Instant
  deriving DecidableEq, Repr, Inhabited

namespace PeerLogEntry

def decoder : Decoder PeerLogEntry :=
  Decoder.flattened "NetworkPeerLogEntry"
    ((Fields.make fun kind timestamp address => ⟨address, kind, timestamp⟩)
      |>.required "kind" Decoder.text
      |>.required "timestamp" Decoder.instant)
    (.fields Address.fields)

end PeerLogEntry

structure PeerTime where
  id : String
  timestamp : Time.Instant
  deriving DecidableEq, Repr, Inhabited

namespace PeerTime

def decoder : Decoder PeerTime :=
  (Decoder.pair Decoder.text Decoder.instant).map fun (id, timestamp) => ⟨id, timestamp⟩

end PeerTime

structure PointState where
  eventKind : String
  peerId : Option String
  deriving DecidableEq, Repr, Inhabited

namespace PointState

def decoder : Decoder PointState :=
  Decoder.record "NetworkPointState" <|
    (Fields.make PointState.mk)
      |>.required "event_kind" Decoder.text
      |>.optional "p2p_peer_id" Decoder.text

end PointState

structure Point where
  address : String
  trusted : Bool
  greylistedUntil : Option Time.Instant
  state : PointState
  peerId : Option String
  lastFailedConnection : Option Time.Instant
  lastRejectedConnection : Option PeerTime
  lastEstablishedConnection : Option PeerTime
  lastDisconnection : Option PeerTime
  lastSeen : Option PeerTime
  lastMiss : Option Time.Instant
  deriving DecidableEq, Repr, Inhabited

namespace Point

def decoder : Decoder Point :=
  Decoder.record "NetworkPoint" <|
    (Fields.make (Point.mk ""))
      |>.orElse "trusted" Decoder.bool false
      |>.optional "greylisted_until" Decoder.instant
      |>.orElse "state" PointState.decoder ⟨"", none⟩
      |>.optional "p2p_peer_id" Decoder.text
      |>.optional "last_failed_connection" Decoder.instant
      |>.optional "last_rejected_connection" PeerTime.decoder
      |>.optional "last_established_connection" PeerTime.decoder
      |>.optional "last_disconnection" PeerTime.decoder
      |>.optional "last_seen" PeerTime.decoder
      |>.optional "last_miss" Decoder.instant

def setAddress (address : String) (p : Point) : Point := { p with address }

end Point

structure PointLogEntry where
  kind : PointState
  timestamp : Time.Instant
  deriving DecidableEq, Repr, Inhabited

namespace PointLogEntry

def decoder : Decoder PointLogEntry :=
  Decoder.record "NetworkPointLogEntry" <|
    (Fields.make PointLogEntry.mk)
      |>.required "kind" PointState.decoder
      |>.required "timestamp" Decoder.instant

end PointLogEntry

end TezosNode
