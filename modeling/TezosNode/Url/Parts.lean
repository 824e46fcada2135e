import TezosNode.Url.Scheme

namespace TezosNode.Url

def splitUserinfo (cs : List Char) : Option (List Char × List Char) :=
  let host := (cs.reverse.takeWhile (· != '@')).reverse
  if cs.contains '@' then some (cs.take (cs.length - host.length - 1), host) else none

def splitPort (bracketed : Bool) : List Char → List Char × List Char
  | [] => ([], [])
  | c :: cs =>
    if c == ':' && !bracketed then ([], c :: cs)
    else
      let (host, rest) := splitPort (if c == '[' then true else if c == ']' then false else bracketed) cs
      (c :: host, rest)

/-- The port, and what is left of the authority. The port that the scheme stands for is not kept. -/
def readPort (kind : SchemeKind) (cs : List Char) : Except UrlFault (Option Nat × List Char) :=
  let digits := cs.takeWhile Char.isDigit
  let rest := cs.dropWhile Char.isDigit
  let port := (digitsIn 10 digits).getD 0
  if 0xFFFF < port then .error .badPort
  else if rest ≠ [] ∧ rest.head? ≠ some '\\' then .error .badPort
  else if digits = [] ∨ kind = .web port then .ok (none, rest)
  else .ok (some port, rest)

def readHost (kind : SchemeKind) (cs : List Char) :
    Except UrlFault (Option Host × Option Nat × List Char) := do
  let (host, rest) := splitPort false cs
  if host = [] then
    if kind.isSpecial ∨ rest ≠ [] then .error .emptyHost else pure (none, none, [])
  else
    let host ← if kind.isSpecial then Host.read host else Host.readOther host
    match rest with
    | [] => pure (some host, none, [])
    | _ :: digits =>
      let (port, rest) ← readPort kind digits
      pure (some host, port, rest)

def endsAuthority (kind : SchemeKind) (c : Char) : Bool := kind.isSlash c || c == '?' || c == '#'

def readAuthority (kind : SchemeKind) (cs : List Char) : Except UrlFault (Authority × List Char) := do
  let own := cs.takeWhile (!endsAuthority kind ·)
  let rest := cs.dropWhile (!endsAuthority kind ·)
  match splitUserinfo own with
  | none =>
    let (host, port, left) ← readHost kind own
    pure ({ host, port }, left ++ rest)
  | some (user, own) =>
    if user = [] ∧ own = [] ∧ rest ≠ [] then .error .emptyHost
    else
      let username := percentEncode inUserinfo (user.takeWhile (· != ':'))
      let password := percentEncode inUserinfo ((user.dropWhile (· != ':')).drop 1)
      let (host, port, left) ← readHost kind own
      if host = none ∧ (username ≠ [] ∨ password ≠ []) then .error .emptyHost
      else pure ({ username, password, host, port }, left ++ rest)

def isPathEnd (c : Char) : Bool := c == '?' || c == '#'

def readTail (kind : SchemeKind) (cs : List Char) : Option (List Char) × Option (List Char) :=
  let fragment := fun cs : List Char =>
    match cs with
    | [] => none
    | _ :: cs => some (percentEncode inFragment cs)
  match cs with
  | '?' :: cs =>
    let encoded := if kind.isSpecial then inWebQuery else inQuery
    (some (percentEncode encoded (cs.takeWhile (· != '#'))), fragment (cs.dropWhile (· != '#')))
  | cs => (none, fragment cs)

end TezosNode.Url
