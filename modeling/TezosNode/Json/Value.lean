import TezosNode.Json.Number

namespace TezosNode.Json

inductive Value where
  | null
  | bool (value : Bool)
  | number (value : Number)
  | string (value : String)
  | array (items : List Value)
  | object (members : List (String × Value))
  deriving Repr, Inhabited, BEq

def insertMember (key : String) (value : Value) : List (String × Value) → List (String × Value)
  | [] => [(key, value)]
  | (k, v) :: rest =>
    if key < k then (key, value) :: (k, v) :: rest
    else if key = k then (key, value) :: rest
    else (k, v) :: insertMember key value rest

/-- Members sorted by key, the last of several with one key. -/
def sortMembers (members : List (String × Value)) : List (String × Value) :=
  members.foldl (fun sorted (key, value) => insertMember key value sorted) []

namespace Value

def integer (value : Int) : Value := .number (.integer value)

mutual

def sorted : Value → Value
  | .array items => .array (sortedItems items)
  | .object members => .object (sortMembers (sortedValues members))
  | other => other

def sortedItems : List Value → List Value
  | [] => []
  | item :: items => item.sorted :: sortedItems items

def sortedValues : List (String × Value) → List (String × Value)
  | [] => []
  | (key, value) :: members => (key, value.sorted) :: sortedValues members

end

def get? (key : String) : Value → Option Value
  | .object members => (members.find? (·.1 = key)).map (·.2)
  | _ => none

end Value

end TezosNode.Json
