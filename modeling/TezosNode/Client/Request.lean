import TezosNode.Client.Failure
import TezosNode.Json.Value
import TezosNode.Url.Form
import TezosNode.Url.Reading

namespace TezosNode.Client

open Json

/-- What may be given as a body. The keys of a table need not be text. -/
inductive Payload where
  | value (value : Value)
  | table (entries : List (Value × Value))
  deriving Repr, Inhabited

namespace Payload

def keyText : Value → Except EncodeFault String
  | .string s => .ok s
  | .bool true => .ok "true"
  | .bool false => .ok "false"
  | .number (.integer n) => .ok (toString n)
  | .number (.double bits) => .ok (Decimal.render Decimal.jsonStyle bits)
  | .null | .array _ | .object _ => .error .keyNotText

def toValue : Payload → Except EncodeFault Value
  | value v => .ok v
  | table entries => do
    let members ← entries.mapM fun (key, v) => do pure (← keyText key, v)
    pure (.object (sortMembers members))

end Payload

structure Request where
  method : String
  path : String
  parameters : List Url.Parameter := []
  body : Option Value := none
  deriving Repr, Inhabited

namespace Request

def get (path : String) : Request := ⟨"GET", path, [], none⟩

def put (path : String) : Request := ⟨"PUT", path, [], none⟩

def withParameter (r : Request) (name value : String) : Request :=
  { r with parameters := r.parameters ++ [⟨name, some value⟩] }

def withFlag (r : Request) (name : String) : Request :=
  { r with parameters := r.parameters ++ [⟨name, none⟩] }

def withBody (r : Request) (payload : Payload) : Except Failure Request :=
  match payload.toValue with
  | .ok v => .ok { r with body := some v }
  | .error fault => .error (.encode fault)

def url (r : Request) (base : Url) : Except Url.UrlFault Url :=
  (base.resolve r.path).map fun url => url.withParameters r.parameters

end Request

end TezosNode.Client
