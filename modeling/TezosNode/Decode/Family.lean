import TezosNode.Decode.Elements

/-!
Families of records that share some fields, one of which is the tag that says which record it is. The
shared fields are decoded first. A tag that is not registered is no fault: its record is known by the
shared fields alone.
-/

namespace TezosNode.Decode

open Json

/-- Records of type `α` with shared fields `γ`. -/
structure Family (γ α : Type) where
  common : Decoder γ
  tag : γ → String
  members : List (String × Decoder α)
  other : γ → α

namespace Family

def names (family : Family γ α) : List String := family.members.map (·.1)

def lookup? (family : Family γ α) (tag : String) : Option (Decoder α) :=
  (family.members.find? (·.1 = tag)).map (·.2)

def ofValue (family : Family γ α) (value : Value) : Except Fault α := do
  let common ← family.common.ofValue value
  match family.lookup? (family.tag common) with
  | some member => member.ofValue value
  | none => pure (family.other common)

def listOfValue (family : Family γ α) (value : Value) : Except Fault (List α) :=
  match value with
  | .array items => elements family.ofValue items
  | value => .error (mismatch .sequence (.ofValue value))

def decoder (family : Family γ α) : Decoder α := Decoder.any.refine family.ofValue

def list (family : Family γ α) : Decoder (List α) :=
  Decoder.any.option.refine fun
    | none => pure []
    | some value => family.listOfValue value

end Family

end TezosNode.Decode
