import TezosNode.Model.Amount
import TezosNode.Model.BalanceUpdate
import TezosNode.Model.BlockHeader
import TezosNode.Model.ErrorRecord

namespace TezosNode

open Decode Json

structure UpdatesMetadata where
  balanceUpdates : List BalanceUpdate
  deriving DecidableEq, Repr, Inhabited

namespace UpdatesMetadata

def decoder : Decoder UpdatesMetadata :=
  Decoder.record "BalanceUpdatesMetadata" <|
    (Fields.make UpdatesMetadata.mk)
      |>.orElse "balance_updates" BalanceUpdate.family.list []

def toValue (m : UpdatesMetadata) : Value :=
  .object [("balance_updates", BalanceUpdate.listToValue m.balanceUpdates)]

end UpdatesMetadata

structure EndorsementMetadata where
  balanceUpdates : List BalanceUpdate
  delegate : String
  slots : List UInt16
  deriving DecidableEq, Repr, Inhabited

namespace EndorsementMetadata

def decoder : Decoder EndorsementMetadata :=
  Decoder.record "EndorsementMetadata" <|
    (Fields.make EndorsementMetadata.mk)
      |>.orElse "balance_updates" BalanceUpdate.family.list []
      |>.orElse "delegate" Decoder.text ""
      |>.orElse "slots" Decoder.uint16.list []

def toValue (m : EndorsementMetadata) : Value :=
  .object [
    ("balance_updates", BalanceUpdate.listToValue m.balanceUpdates),
    ("delegate", .string m.delegate),
    ("slots", .array (m.slots.map fun slot => .integer slot.toNat))]

end EndorsementMetadata

/-- The result of a manager operation. Which parts it has depends on its kind and outcome. -/
structure ManagerResult where
  status : String
  storage : Option Value
  balanceUpdates : List BalanceUpdate
  originatedContracts : List String
  consumedGas : Option Amount
  storageSize : Option Amount
  paidStorageSizeDiff : Option Amount
  errors : List ErrorRecord
  deriving Inhabited, BEq

namespace ManagerResult

def blank : ManagerResult := ⟨"", none, [], [], none, none, none, []⟩

def isApplied (r : ManagerResult) : Bool := r.status = "applied"

def decoder : Decoder ManagerResult :=
  Decoder.record "ManagerOperationResult" <|
    (Fields.make ManagerResult.mk)
      |>.orElse "status" Decoder.text ""
      |>.optional "storage" Decoder.any
      |>.orElse "balance_updates" BalanceUpdate.family.list []
      |>.orElse "originated_contracts" Decoder.text.list []
      |>.optional "consumed_gas" Amount.decoder
      |>.optional "storage_size" Amount.decoder
      |>.optional "paid_storage_size_diff" Amount.decoder
      |>.orElse "errors" ErrorRecord.listDecoder []

def listMember (key : String) (toValue : List α → Value) (items : List α) :
    List (String × Value) :=
  if items.isEmpty then [] else [(key, toValue items)]

def toValue (r : ManagerResult) : Value :=
  .object <| [("status", .string r.status)] ++
    optionalMember "storage" id r.storage ++
    listMember "balance_updates" BalanceUpdate.listToValue r.balanceUpdates ++
    listMember "originated_contracts" textsToValue r.originatedContracts ++
    optionalMember "consumed_gas" Amount.toValue r.consumedGas ++
    optionalMember "storage_size" Amount.toValue r.storageSize ++
    optionalMember "paid_storage_size_diff" Amount.toValue r.paidStorageSizeDiff ++
    listMember "errors" ErrorRecord.listToValue r.errors

end ManagerResult

structure ManagerMetadata where
  balanceUpdates : List BalanceUpdate
  operationResult : ManagerResult
  deriving Inhabited, BEq

namespace ManagerMetadata

def blank : ManagerMetadata := ⟨[], .blank⟩

def decoder : Decoder ManagerMetadata :=
  Decoder.record "ManagerOperationMetadata" <|
    (Fields.make ManagerMetadata.mk)
      |>.orElse "balance_updates" BalanceUpdate.family.list []
      |>.orElse "operation_result" ManagerResult.decoder .blank

def toValue (m : ManagerMetadata) : Value :=
  .object [
    ("balance_updates", BalanceUpdate.listToValue m.balanceUpdates),
    ("operation_result", m.operationResult.toValue)]

end ManagerMetadata

end TezosNode
