import TezosNode.Model.Content

/-! Signed operations, those the mempool refused or put off, and the mempool. -/

namespace TezosNode

open Decode Json

structure Operation where
  protocol : String
  chainId : String
  hash : String
  branch : String
  contents : List Content
  signature : String
  deriving Inhabited, BEq

namespace Operation

def fields : Fields Operation :=
  (Fields.make Operation.mk)
    |>.orElse "protocol" Decoder.text ""
    |>.orElse "chain_id" Decoder.text ""
    |>.orElse "hash" Decoder.text ""
    |>.orElse "branch" Decoder.text ""
    |>.orElse "contents" Content.family.list []
    |>.orElse "signature" Decoder.text ""

def decoder : Decoder Operation := Decoder.record "Operation" fields

def members (o : Operation) : List (String × Value) := [
  ("protocol", .string o.protocol),
  ("chain_id", .string o.chainId),
  ("hash", .string o.hash),
  ("branch", .string o.branch),
  ("contents", .array (o.contents.map Content.toValue)),
  ("signature", .string o.signature)]

def toValue (o : Operation) : Value := .object o.members

/-- What the contents pay together, unless a partial sum overflows. -/
def totalFee (o : Operation) : Except Amount.Overflow Amount := Amount.sum (o.contents.filterMap Content.fee?)

def setHash (hash : String) (o : Operation) : Operation := { o with hash }

end Operation

structure RefusedOperation where
  operation : Operation
  errors : List ErrorRecord
  deriving Inhabited, BEq

namespace RefusedOperation

def decoder : Decoder RefusedOperation :=
  Decoder.flattened "OperationWithError"
    ((Fields.make fun errors operation => ⟨operation, errors⟩)
      |>.orElse "error" ErrorRecord.listDecoder [])
    (.fields Operation.fields)

def toValue (r : RefusedOperation) : Value :=
  .object (r.operation.members ++ [("error", ErrorRecord.listToValue r.errors)])

def setHash (hash : String) (r : RefusedOperation) : RefusedOperation :=
  { r with operation := r.operation.setHash hash }

end RefusedOperation

/-- The operations that wait in the mempool. Every pool but the first one lists operations behind their
hashes. -/
structure Mempool where
  applied : List Operation
  refused : List RefusedOperation
  branchRefused : List RefusedOperation
  branchDelayed : List RefusedOperation
  unprocessed : List Operation
  deriving Inhabited, BEq

namespace Mempool

def decoder : Decoder Mempool :=
  Decoder.record "MempoolOperations" <|
    (Fields.make Mempool.mk)
      |>.orElse "applied" Operation.decoder.list []
      |>.orElse "refused" (.keyedList RefusedOperation.setHash RefusedOperation.decoder) []
      |>.orElse "branch_refused" (.keyedList RefusedOperation.setHash RefusedOperation.decoder) []
      |>.orElse "branch_delayed" (.keyedList RefusedOperation.setHash RefusedOperation.decoder) []
      |>.orElse "unprocessed" (.keyedList Operation.setHash Operation.decoder) []

def size (m : Mempool) : Nat :=
  m.applied.length + m.refused.length + m.branchRefused.length + m.branchDelayed.length +
    m.unprocessed.length

def isEmpty (m : Mempool) : Bool := m.size = 0

end Mempool

end TezosNode
