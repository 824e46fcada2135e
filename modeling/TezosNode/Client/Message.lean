import TezosNode.Client.Settings
import TezosNode.Client.Transfer
import TezosNode.Json.Render

/-!
What is sent for a request. A client speaks two schemes only, and a user agent with control characters
fits no header; what cannot be sent is never answered.
-/

namespace TezosNode.Client

structure Message where
  method : String
  url : Url
  accept : String
  userAgent : String
  contentType : Option String
  body : Option String
  deriving DecidableEq, Repr, Inhabited

/-- A tab is the only control character in a header. -/
def isHeaderChar (c : Char) : Bool := c == '\t' || !Url.isControl c

def isMethodChar (c : Char) : Bool :=
  c.isAlphanum || "!#$%&'*+-.^_\x60|~".toList.contains c

def isSendable (method : String) (url : Url) (userAgent : String) : Bool :=
  isSupported url.scheme && userAgent.toList.all isHeaderChar && method.toList.all isMethodChar

def message? (c : Client) (request : Request) (url : Url) : Option Message :=
  if isSendable request.method url c.userAgent then
    some {
      method := request.method
      url
      accept := mediaType
      userAgent := c.userAgent
      contentType := request.body.map fun _ => mediaType
      body := request.body.map Json.Value.render }
  else none

/-- What becomes of a request, if the node answers messages as given. -/
def exchange (c : Client) (request : Request) (url : Url) (node : Message → Exchange) : Exchange :=
  match c.message? request url with
  | some message => node message
  | none => .failed

end TezosNode.Client
