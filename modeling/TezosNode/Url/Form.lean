import TezosNode.Url.Basic

namespace TezosNode.Url

structure Parameter where
  name : String
  value : Option String
  deriving DecidableEq, Repr, Inhabited

def isFormChar (c : Char) : Bool :=
  c.isAlphanum || c == '*' || c == '-' || c == '.' || c == '_'

def formEncode (s : String) : List Char :=
  s.toList.flatMap fun c => if c == ' ' then ['+'] else if isFormChar c then [c] else percentChar c

def formDecode (cs : List Char) : Option String :=
  (percentDecode (Bytes.ofString (String.ofList (cs.map fun c => if c == '+' then ' ' else c)))).text?

namespace Parameter

def text (p : Parameter) : List Char :=
  match p.value with
  | some value => formEncode p.name ++ '=' :: formEncode value
  | none => formEncode p.name

def read (cs : List Char) : Option Parameter := do
  let name ← formDecode (cs.takeWhile (· != '='))
  match cs.dropWhile (· != '=') with
  | [] => pure ⟨name, none⟩
  | _ :: value => pure ⟨name, some (← formDecode value)⟩

end Parameter

/-- The parameters of a query; pieces without text are none. -/
def readForm (query : List Char) : Option (List Parameter) :=
  ((pieces (· == '&') query).filter (!·.isEmpty)).mapM Parameter.read

/-- A query with one more parameter. An empty query needs no separator. -/
def appendParameter (query : List Char) (p : Parameter) : List Char :=
  if query = [] then p.text else query ++ '&' :: p.text

def withParameters (u : Url) (parameters : List Parameter) : Url :=
  if parameters = [] then u
  else { u with query := some (parameters.foldl appendParameter (u.query.getD [])) }

end TezosNode.Url
