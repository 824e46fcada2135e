import TezosNode.Model.Operation

namespace TezosNode

open Decode Json

namespace TestChain

structure Common where
  status : String
  deriving DecidableEq, Repr, Inhabited

namespace Common

def fields : Fields Common := (Fields.make Common.mk) |>.required "status" Decoder.text

def decoder : Decoder Common := Decoder.record "GenericTestChainStatus" fields

def members (c : Common) : List (String × Value) := [("status", .string c.status)]

end Common

structure NotRunning where
  common : Common
  deriving DecidableEq, Repr, Inhabited

def NotRunning.decoder : Decoder NotRunning :=
  Decoder.flattened "NotRunningTestChainStatus" (Fields.make NotRunning.mk) (.fields Common.fields)

structure Forking where
  common : Common
  protocol : String
  expiration : Time.Instant
  deriving DecidableEq, Repr, Inhabited

def Forking.decoder : Decoder Forking :=
  Decoder.flattened "ForkingTestChainStatus"
    ((Fields.make fun protocol expiration common => ⟨common, protocol, expiration⟩)
      |>.required "protocol" Decoder.text
      |>.required "expiration" Decoder.instant)
    (.fields Common.fields)

def Forking.toValue (s : Forking) : Value :=
  .object (s.common.members ++ [
    ("protocol", .string s.protocol),
    ("expiration", .string s.expiration.text)])

structure Running where
  common : Common
  chainId : String
  genesis : String
  protocol : String
  expiration : Time.Instant
  deriving DecidableEq, Repr, Inhabited

def Running.decoder : Decoder Running :=
  Decoder.flattened "RunningTestChainStatus"
    ((Fields.make fun chainId genesis protocol expiration common =>
        ⟨common, chainId, genesis, protocol, expiration⟩)
      |>.required "chain_id" Decoder.text
      |>.required "genesis" Decoder.text
      |>.required "protocol" Decoder.text
      |>.required "expiration" Decoder.instant)
    (.fields Common.fields)

def Running.toValue (s : Running) : Value :=
  .object (s.common.members ++ [
    ("chain_id", .string s.chainId),
    ("genesis", .string s.genesis),
    ("protocol", .string s.protocol),
    ("expiration", .string s.expiration.text)])

end TestChain

inductive TestChain where
  | notRunning (state : TestChain.NotRunning)
  | forking (state : TestChain.Forking)
  | running (state : TestChain.Running)
  | other (common : TestChain.Common)
  deriving DecidableEq, Repr, Inhabited

namespace TestChain

def common : TestChain → Common
  | notRunning s => s.common
  | forking s => s.common
  | running s => s.common
  | other common => common

def status (s : TestChain) : String := s.common.status

def family : Family Common TestChain where
  common := Common.decoder
  tag := Common.status
  members := [
    ("not_running", NotRunning.decoder.map .notRunning),
    ("forking", Forking.decoder.map .forking),
    ("running", Running.decoder.map .running)]
  other := .other

def decoder : Decoder TestChain := family.decoder

def toValue : TestChain → Value
  | notRunning s => .object s.common.members
  | forking s => s.toValue
  | running s => s.toValue
  | other common => .object common.members

end TestChain

structure OperationLimit where
  maxSize : UInt32
  maxOp : UInt32
  deriving DecidableEq, Repr, Inhabited

namespace OperationLimit

def decoder : Decoder OperationLimit :=
  Decoder.record "MaxOperationListLength" <|
    (Fields.make OperationLimit.mk)
      |>.orElse "max_size" Decoder.uint32 0
      |>.orElse "max_op" Decoder.uint32 0

def toValue (l : OperationLimit) : Value :=
  .object [("max_size", .integer l.maxSize.toNat), ("max_op", .integer l.maxOp.toNat)]

end OperationLimit

structure BlockLevel where
  level : Int32
  levelPosition : Int32
  cycle : Int32
  cyclePosition : Int32
  votingPeriod : Int32
  votingPeriodPosition : Int32
  expectedCommitment : Bool
  deriving DecidableEq, Repr, Inhabited

namespace BlockLevel

def blank : BlockLevel := ⟨0, 0, 0, 0, 0, 0, false⟩

def decoder : Decoder BlockLevel :=
  Decoder.record "BlockHeaderMetadataLevel" <|
    (Fields.make BlockLevel.mk)
      |>.orElse "level" Decoder.int32 0
      |>.orElse "level_position" Decoder.int32 0
      |>.orElse "cycle" Decoder.int32 0
      |>.orElse "cycle_position" Decoder.int32 0
      |>.orElse "voting_period" Decoder.int32 0
      |>.orElse "voting_period_position" Decoder.int32 0
      |>.orElse "expected_commitment" Decoder.bool false

def toValue (l : BlockLevel) : Value :=
  .object [
    ("level", .integer l.level.toInt),
    ("level_position", .integer l.levelPosition.toInt),
    ("cycle", .integer l.cycle.toInt),
    ("cycle_position", .integer l.cyclePosition.toInt),
    ("voting_period", .integer l.votingPeriod.toInt),
    ("voting_period_position", .integer l.votingPeriodPosition.toInt),
    ("expected_commitment", .bool l.expectedCommitment)]

end BlockLevel

structure BlockMetadata where
  protocol : String
  nextProtocol : String
  testChain : Option TestChain
  maxOperationsTtl : Int32
  maxOperationDataLength : Int32
  maxBlockHeaderLength : Int32
  maxOperationListLength : List OperationLimit
  baker : String
  level : BlockLevel
  votingPeriodKind : String
  nonceHash : Option String
  consumedGas : Option Amount
  deactivated : List String
  balanceUpdates : List BalanceUpdate
  deriving DecidableEq, Repr, Inhabited

namespace BlockMetadata

def blank : BlockMetadata := ⟨"", "", none, 0, 0, 0, [], "", .blank, "", none, none, [], []⟩

def decoder : Decoder BlockMetadata :=
  Decoder.record "BlockHeaderMetadata" <|
    (Fields.make BlockMetadata.mk)
      |>.orElse "protocol" Decoder.text ""
      |>.orElse "next_protocol" Decoder.text ""
      |>.optional "test_chain_status" TestChain.decoder
      |>.orElse "max_operations_ttl" Decoder.int32 0
      |>.orElse "max_operation_data_length" Decoder.int32 0
      |>.orElse "max_block_header_length" Decoder.int32 0
      |>.orElse "max_operation_list_length" OperationLimit.decoder.list []
      |>.orElse "baker" Decoder.text ""
      |>.orElse "level" BlockLevel.decoder .blank
      |>.orElse "voting_period_kind" Decoder.text ""
      |>.optional "nonce_hash" Decoder.text
      |>.optional "consumed_gas" Amount.decoder
      |>.orElse "deactivated" Decoder.text.list []
      |>.orElse "balance_updates" BalanceUpdate.family.list []

def toValue (m : BlockMetadata) : Value :=
  .object <| [
    ("protocol", .string m.protocol),
    ("next_protocol", .string m.nextProtocol)] ++
    optionalMember "test_chain_status" TestChain.toValue m.testChain ++ [
    ("max_operations_ttl", .integer m.maxOperationsTtl.toInt),
    ("max_operation_data_length", .integer m.maxOperationDataLength.toInt),
    ("max_block_header_length", .integer m.maxBlockHeaderLength.toInt),
    ("max_operation_list_length", .array (m.maxOperationListLength.map OperationLimit.toValue)),
    ("baker", .string m.baker),
    ("level", m.level.toValue),
    ("voting_period_kind", .string m.votingPeriodKind)] ++
    optionalMember "nonce_hash" .string m.nonceHash ++
    optionalMember "consumed_gas" Amount.toValue m.consumedGas ++ [
    ("deactivated", textsToValue m.deactivated),
    ("balance_updates", BalanceUpdate.listToValue m.balanceUpdates)]

end BlockMetadata

structure Block where
  protocol : String
  chainId : String
  hash : String
  header : BlockHeader
  metadata : BlockMetadata
  /-- One list for each validation pass. -/
  operations : List (List Operation)
  deriving Inhabited, BEq

namespace Block

def decoder : Decoder Block :=
  Decoder.record "Block" <|
    (Fields.make Block.mk)
      |>.orElse "protocol" Decoder.text ""
      |>.orElse "chain_id" Decoder.text ""
      |>.orElse "hash" Decoder.text ""
      |>.orElse "header" BlockHeader.decoder .blank
      |>.orElse "metadata" BlockMetadata.decoder .blank
      |>.orElse "operations" Operation.decoder.list.list []

def toValue (b : Block) : Value :=
  .object [
    ("protocol", .string b.protocol),
    ("chain_id", .string b.chainId),
    ("hash", .string b.hash),
    ("header", b.header.toValue),
    ("metadata", b.metadata.toValue),
    ("operations", .array (b.operations.map fun pass => .array (pass.map Operation.toValue)))]

end Block

structure RefusedBlock where
  block : String
  level : Int32
  errors : List ErrorRecord
  deriving Inhabited, BEq

namespace RefusedBlock

def decoder : Decoder RefusedBlock :=
  Decoder.record "InvalidBlock" <|
    (Fields.make RefusedBlock.mk)
      |>.orElse "block" Decoder.text ""
      |>.orElse "level" Decoder.int32 0
      |>.orElse "error" ErrorRecord.listDecoder []

def toValue (b : RefusedBlock) : Value :=
  .object [
    ("block", .string b.block),
    ("level", .integer b.level.toInt),
    ("error", ErrorRecord.listToValue b.errors)]

end RefusedBlock

end TezosNode
