import TezosNode.Decode.Record

namespace TezosNode

open Decode Json

def fitnessToValue (fitness : List Bytes) : Value :=
  .array (fitness.map fun bytes => .string (Text.hexOf bytes))

/-- A member that is left out when there is nothing to write. -/
def optionalMember (key : String) (toValue : α → Value) : Option α → List (String × Value)
  | some value => [(key, toValue value)]
  | none => []

def optionalToValue (toValue : α → Value) : Option α → Value
  | some value => toValue value
  | none => .null

def textsToValue (texts : List String) : Value := .array (texts.map .string)

structure BlockHead where
  hash : String
  level : Int32
  proto : UInt8
  predecessor : String
  timestamp : Time.Instant
  validationPass : UInt8
  operationsHash : String
  fitness : List Bytes
  context : String
  protocolData : String
  deriving DecidableEq, Inhabited

namespace BlockHead

def decoder : Decoder BlockHead :=
  Decoder.record "BlockInfo" <|
    (Fields.make BlockHead.mk)
      |>.orElse "hash" Decoder.text ""
      |>.orElse "level" Decoder.int32 0
      |>.orElse "proto" Decoder.uint8 0
      |>.orElse "predecessor" Decoder.text ""
      |>.orElse "timestamp" Decoder.instant {}
      |>.orElse "validation_pass" Decoder.uint8 0
      |>.orElse "operations_hash" Decoder.text ""
      |>.orElse "fitness" Decoder.hex.list []
      |>.orElse "context" Decoder.text ""
      |>.orElse "protocol_data" Decoder.text ""

def toValue (b : BlockHead) : Value :=
  .object [
    ("hash", .string b.hash),
    ("level", .integer b.level.toInt),
    ("proto", .integer b.proto.toNat),
    ("predecessor", .string b.predecessor),
    ("timestamp", .string b.timestamp.text),
    ("validation_pass", .integer b.validationPass.toNat),
    ("operations_hash", .string b.operationsHash),
    ("fitness", fitnessToValue b.fitness),
    ("context", .string b.context),
    ("protocol_data", .string b.protocolData)]

end BlockHead

structure BlockHeader where
  level : Int32
  proto : UInt8
  predecessor : String
  timestamp : Time.Instant
  validationPass : UInt8
  operationsHash : String
  fitness : List Bytes
  context : String
  priority : Int32
  proofOfWorkNonce : Bytes
  seedNonceHash : Option String
  signature : String
  deriving DecidableEq, Inhabited

namespace BlockHeader

def blank : BlockHeader := ⟨0, 0, "", {}, 0, "", [], "", 0, [], none, ""⟩

def decoder : Decoder BlockHeader :=
  Decoder.record "RawBlockHeader" <|
    (Fields.make BlockHeader.mk)
      |>.orElse "level" Decoder.int32 0
      |>.orElse "proto" Decoder.uint8 0
      |>.orElse "predecessor" Decoder.text ""
      |>.orElse "timestamp" Decoder.instant {}
      |>.orElse "validation_pass" Decoder.uint8 0
      |>.orElse "operations_hash" Decoder.text ""
      |>.orElse "fitness" Decoder.hex.list []
      |>.orElse "context" Decoder.text ""
      |>.orElse "priority" Decoder.int32 0
      |>.orElse "proof_of_work_nonce" Decoder.hex []
      |>.optional "seed_nonce_hash" Decoder.text
      |>.orElse "signature" Decoder.text ""

def toValue (b : BlockHeader) : Value :=
  .object <| [
    ("level", .integer b.level.toInt),
    ("proto", .integer b.proto.toNat),
    ("predecessor", .string b.predecessor),
    ("timestamp", .string b.timestamp.text),
    ("validation_pass", .integer b.validationPass.toNat),
    ("operations_hash", .string b.operationsHash),
    ("fitness", fitnessToValue b.fitness),
    ("context", .string b.context),
    ("priority", .integer b.priority.toInt),
    ("proof_of_work_nonce", .string (Text.hexOf b.proofOfWorkNonce))] ++
    optionalMember "seed_nonce_hash" .string b.seedNonceHash ++
    [("signature", .string b.signature)]

end BlockHeader

end TezosNode
