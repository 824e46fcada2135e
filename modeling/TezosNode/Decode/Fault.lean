import TezosNode.Json.Malformed
import TezosNode.Json.Number
import TezosNode.Decimal.Text
import TezosNode.Text.Integer
import TezosNode.Text.Hex
import TezosNode.Text.Quoted
import TezosNode.Time.Reading

/-! Why a JSON document is not a record of the kind wanted. -/

namespace TezosNode

namespace Decode

open Json Text

inductive Found where
  | null
  | bool (value : Bool)
  | number (value : Number)
  | string (value : String)
  | sequence
  | map
  deriving DecidableEq, Repr, Inhabited

inductive Wanted where
  | text
  | boolean
  | integer (kind : String)
  | double
  | sequence
  | record (name : String)
  | instant
  | unit
  | textOrMap
  | singleKey
  | fields (name : String) (count : Nat)
  | fewerItems
  | items (count : Nat)
  deriving DecidableEq, Repr, Inhabited

inductive Fault where
  | malformed (fault : Malformed)
  | wrongType (found : Found) (wanted : Wanted)
  | wrongValue (found : Found) (wanted : Wanted)
  | wrongLength (length : Nat) (wanted : Wanted)
  | missingField (name : String)
  | duplicateField (name : String)
  | neitherOneNorMany
  | integer (fault : IntegerFault)
  | hex (fault : HexFault)
  | instant (fault : Time.InstantFault)
  | shortPair (length : Nat)
  /-- The fault of one element of a list. -/
  | element (index : Nat) (fault : Fault)
  | position (index : Nat) (fault : Fault)
  deriving DecidableEq, Repr, Inhabited

namespace Found

def message : Found → String
  | null => "null"
  | bool true => "boolean `true`"
  | bool false => "boolean `false`"
  | number (.integer n) => "integer `" ++ toString n ++ "`"
  | number (.double bits) => "floating point `" ++ Decimal.render Decimal.jsonStyle bits ++ "`"
  | string s => "string " ++ quote s
  | sequence => "sequence"
  | map => "map"

end Found

namespace Wanted

def elements (n : Nat) : String := Nat.repr n ++ if n = 1 then " element" else " elements"

def message : Wanted → String
  | text => "a string"
  | boolean => "a boolean"
  | integer kind => kind
  | double => "f64"
  | sequence => "a sequence"
  | record name => "struct " ++ name
  | instant => "an RFC 3339 formatted date and time string"
  | unit => "unit"
  | textOrMap => "string or map"
  | singleKey => "map with a single key"
  | fields name count => "struct " ++ name ++ " with " ++ elements count
  | fewerItems => "fewer elements in array"
  | items count => elements count ++ " in sequence"

end Wanted

end Decode

namespace Text.HexFault

def message : HexFault → String
  | oddLength => "Odd number of digits"
  | badDigit byte index =>
    "Invalid character " ++ quoteChar (Char.ofNat byte.toNat) ++ " at position " ++ Nat.repr index

end Text.HexFault

namespace Decode.Fault

inductive Category where
  | grammar
  | data
  | cutOff
  deriving DecidableEq, Repr, Inhabited

def category : Fault → Category
  | malformed fault => if fault.isCutOff then .cutOff else .grammar
  | _ => .data

def message : Fault → String
  | malformed fault => fault.message
  | wrongType found wanted => "invalid type: " ++ found.message ++ ", expected " ++ wanted.message
  | wrongValue found wanted => "invalid value: " ++ found.message ++ ", expected " ++ wanted.message
  | wrongLength length wanted =>
    "invalid length " ++ Nat.repr length ++ ", expected " ++ wanted.message
  | missingField name => "missing field `" ++ name ++ "`"
  | duplicateField name => "duplicate field `" ++ name ++ "`"
  | neitherOneNorMany => "data did not match any variant of untagged enum OneOrMany"
  | integer fault => fault.message
  | hex fault => fault.message
  | instant fault => fault.message
  | shortPair length => "JSON array is too short, expected 2, got " ++ Nat.repr length
  | element index fault => "element " ++ Nat.repr index ++ ": " ++ fault.message
  | position index fault => "array element " ++ Nat.repr index ++ ": " ++ fault.message

end Decode.Fault

end TezosNode
