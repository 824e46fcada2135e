import TezosNode.Url.Host

/-! URLs as records, and their text. -/

namespace TezosNode

namespace Url

/-- Who is asked, and as whom. Without a password there is no colon. -/
structure Authority where
  username : List Char := []
  password : List Char := []
  host : Option Host := none
  port : Option Nat := none
  deriving DecidableEq, Repr, Inhabited

inductive Path where
  | plain (text : List Char)
  | segments (names : List (List Char))
  deriving DecidableEq, Repr, Inhabited

end Url

structure Url where
  scheme : List Char
  authority : Option Url.Authority
  path : Url.Path
  query : Option (List Char)
  fragment : Option (List Char)
  deriving DecidableEq, Repr, Inhabited

namespace Url

namespace Authority

def userinfo (a : Authority) : List Char :=
  if a.password ≠ [] then a.username ++ ':' :: a.password ++ ['@']
  else if a.username ≠ [] then a.username ++ ['@']
  else []

def hostText (a : Authority) : List Char := (a.host.map Host.text).getD []

def portText (a : Authority) : List Char :=
  match a.port with
  | some port => ':' :: Nat.toDigits 10 port
  | none => []

def text (a : Authority) : List Char := a.userinfo ++ a.hostText ++ a.portText

end Authority

namespace Path

def text : Path → List Char
  | plain text => text
  | segments names => names.flatMap ('/' :: ·)

/-- Without an authority, a path that begins with two slashes would read as one. -/
def isMistakable : Path → Bool
  | segments ([] :: _ :: _) => true
  | _ => false

end Path

def front (u : Url) : List Char :=
  u.scheme ++ ':' ::
    match u.authority with
    | some authority => '/' :: '/' :: authority.text
    | none => if u.path.isMistakable then ['/', '.'] else []

def optionalPart (mark : Char) : Option (List Char) → List Char
  | some text => mark :: text
  | none => []

def toList (u : Url) : List Char :=
  u.front ++ u.path.text ++ optionalPart '?' u.query ++ optionalPart '#' u.fragment

def text (u : Url) : String := String.ofList u.toList

end Url

end TezosNode
