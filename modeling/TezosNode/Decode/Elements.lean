import TezosNode.Decode.Basic

namespace TezosNode.Decode

open Json

/-- Decodes values in order; the first fault is named by its index, counted from `index`. -/
def elementsFrom (index : Nat) (decode : Value → Except Fault α) :
    List Value → Except Fault (List α)
  | [] => .ok []
  | value :: values => do
    let first ← (decode value).mapError (.element index)
    let others ← elementsFrom (index + 1) decode values
    pure (first :: others)

def elements (decode : Value → Except Fault α) (values : List Value) : Except Fault (List α) :=
  elementsFrom 0 decode values

namespace Decoder

def pair (first : Decoder α) (second : Decoder β) : Decoder (α × β) :=
  any.list.refine fun
    | a :: b :: _ => do
      let a ← (first.ofValue a).mapError (.position 0)
      let b ← (second.ofValue b).mapError (.position 1)
      pure (a, b)
    | short => .error (.shortPair short.length)

/-- A record behind its key: the key goes into the record. -/
def keyed (setKey : String → α → α) (record : Decoder α) : Decoder α :=
  (pair text record).map fun (key, value) => setKey key value

def keyedList (setKey : String → α → α) (record : Decoder α) : Decoder (List α) :=
  any.list.option.refine fun values =>
    elements (keyed setKey record).ofValue (values.getD [])

end Decoder

end TezosNode.Decode
