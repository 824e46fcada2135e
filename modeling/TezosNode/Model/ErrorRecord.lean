import TezosNode.Decode.Record

/-!
Error records of the node. Where a list of records is wanted, a single record stands for a list of
one.
-/

namespace TezosNode

open Decode Json

inductive ErrorClass where
  | permanent
  | temporary
  | branch
  | other (name : String)
  deriving DecidableEq, Repr, Inhabited

namespace ErrorClass

def name : ErrorClass → String
  | permanent => "permanent"
  | temporary => "temporary"
  | branch => "branch"
  | other name => name

def ofName (s : String) : ErrorClass :=
  if s = "permanent" then permanent
  else if s = "temporary" then temporary
  else if s = "branch" then branch
  else other s

def decoder : Decoder ErrorClass := Decoder.text.map ofName

theorem name_ofName (s : String) : (ofName s).name = s := by
  unfold ofName
  repeat' split
  all_goals simp_all [name]

end ErrorClass

structure ErrorRecord where
  kind : ErrorClass
  id : String
  extra : List (String × Value)
  deriving Repr, Inhabited, BEq

namespace ErrorRecord

def plain (kind : ErrorClass) (id : String) : ErrorRecord := ⟨kind, id, []⟩

def decoder : Decoder ErrorRecord :=
  Decoder.flattened "NodeError"
    ((Fields.make fun kind id extra => ⟨kind, id, extra⟩)
      |>.required "kind" ErrorClass.decoder
      |>.required "id" Decoder.text)
    Decoder.Rest.members

def toValue (e : ErrorRecord) : Value :=
  .object (("kind", .string e.kind.name) :: ("id", .string e.id) :: e.extra)

def message (e : ErrorRecord) : String :=
  "kind = " ++ Text.quote e.kind.name ++ ", id = " ++ Text.quote e.id

/-- A list of records or one record. What is neither is one fault, whatever is wrong with it. -/
def listDecoder : Decoder (List ErrorRecord) where
  decode source document := do
    let _ ← anyValue source document
    match decoder.list.decode .buffered document, decoder.decode .buffered document with
    | .ok records, _ => pure records
    | .error _, .ok record => pure [record]
    | .error _, .error _ => .error .neitherOneNorMany

def listToValue (errors : List ErrorRecord) : Value := .array (errors.map toValue)

end ErrorRecord

end TezosNode
