import TezosNode.Model.ErrorRecord

/-!
Replies that carry no value, sorted by status and media type. Only a server error in the media type of
the node is read for error records.
-/

namespace TezosNode.Client

open Decode

def mediaType : String := "application/json"

inductive RefusalCause where
  /-- No error of the server, or not in the media type of the node. -/
  | status
  | records (errors : List ErrorRecord)
  | empty
  | malformed (fault : Fault)
  deriving Repr, Inhabited

structure Refusal where
  status : Nat
  body : Bytes
  cause : RefusalCause
  deriving Repr, Inhabited

namespace Refusal

def isServerError (status : Nat) : Bool := 500 ≤ status && status < 600

def occursIn (word : List Char) : List Char → Bool
  | [] => word.isEmpty
  | c :: cs => word.isPrefixOf (c :: cs) || occursIn word cs

/-- The media type is looked for anywhere in the header. -/
def isMediaType : Option String → Bool
  | some header => occursIn mediaType.toList header.toList
  | none => false

def causeOf (body : Bytes) : RefusalCause :=
  match ErrorRecord.listDecoder.ofText body with
  | .error fault => .malformed fault
  | .ok [] => .empty
  | .ok errors => .records errors

def classify (status : Nat) (contentType : Option String) (body : Bytes) : Refusal where
  status := status
  body := body
  cause := if isServerError status && isMediaType contentType then causeOf body else .status

def errors (r : Refusal) : List ErrorRecord :=
  match r.cause with
  | .records errors => errors
  | _ => []

def message (r : Refusal) : String :=
  match r.cause with
  | .status => "HTTP status " ++ Nat.repr r.status
  | .records errors => "; ".intercalate (errors.map ErrorRecord.message)
  | .empty => "Empty RPC error response"
  | .malformed fault => "Error decoding RPC error: " ++ fault.message

end Refusal

end TezosNode.Client
