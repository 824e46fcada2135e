import TezosNode.Decode.Record
import TezosNode.Decode.Family

namespace TezosNode

open Decode Json

namespace BalanceUpdate

structure Common where
  kind : String
  change : Int64
  deriving DecidableEq, Repr, Inhabited

namespace Common

def fields : Fields Common :=
  (Fields.make Common.mk)
    |>.required "kind" Decoder.text
    |>.required "change" Decoder.quotedInt64

def decoder : Decoder Common := Decoder.record "GenericBalanceUpdate" fields

def members (c : Common) : List (String × Value) :=
  [("kind", .string c.kind), ("change", .string (toString c.change.toInt))]

end Common

structure Contract where
  common : Common
  contract : String
  deriving DecidableEq, Repr, Inhabited

def Contract.decoder : Decoder Contract :=
  Decoder.flattened "ContractBalanceUpdate"
    ((Fields.make fun contract common => ⟨common, contract⟩)
      |>.required "contract" Decoder.text)
    (.fields Common.fields)

def Contract.toValue (u : Contract) : Value :=
  .object (u.common.members ++ [("contract", .string u.contract)])

structure Freezer where
  common : Common
  category : String
  delegate : String
  level : Int32
  deriving DecidableEq, Repr, Inhabited

def Freezer.decoder : Decoder Freezer :=
  Decoder.flattened "FreezerBalanceUpdate"
    ((Fields.make fun category delegate level common => ⟨common, category, delegate, level⟩)
      |>.required "category" Decoder.text
      |>.required "delegate" Decoder.text
      |>.required "level" Decoder.int32)
    (.fields Common.fields)

def Freezer.toValue (u : Freezer) : Value :=
  .object (u.common.members ++ [
    ("category", .string u.category),
    ("delegate", .string u.delegate),
    ("level", .integer u.level.toInt)])

end BalanceUpdate

inductive BalanceUpdate where
  | contract (update : BalanceUpdate.Contract)
  | freezer (update : BalanceUpdate.Freezer)
  | other (common : BalanceUpdate.Common)
  deriving DecidableEq, Repr, Inhabited

namespace BalanceUpdate

def common : BalanceUpdate → Common
  | contract u => u.common
  | freezer u => u.common
  | other c => c

def kind (u : BalanceUpdate) : String := u.common.kind

def change (u : BalanceUpdate) : Int64 := u.common.change

def family : Family Common BalanceUpdate where
  common := Common.decoder
  tag := Common.kind
  members := [
    ("contract", Contract.decoder.map .contract),
    ("freezer", Freezer.decoder.map .freezer)]
  other := .other

def decoder : Decoder BalanceUpdate := family.decoder

def toValue : BalanceUpdate → Value
  | contract u => u.toValue
  | freezer u => u.toValue
  | other c => .object c.members

def listToValue (updates : List BalanceUpdate) : Value := .array (updates.map toValue)

end BalanceUpdate

end TezosNode
