import TezosNode.Url.Basic

namespace TezosNode.Url

inductive SchemeKind where
  | web (port : Nat)
  | file
  | other
  deriving DecidableEq, Repr, Inhabited

namespace SchemeKind

def of (scheme : List Char) : SchemeKind :=
  if scheme = "http".toList ∨ scheme = "ws".toList then web 80
  else if scheme = "https".toList ∨ scheme = "wss".toList then web 443
  else if scheme = "ftp".toList then web 21
  else if scheme = "file".toList then file
  else other

def isSpecial : SchemeKind → Bool
  | other => false
  | _ => true

def isSlash (kind : SchemeKind) (c : Char) : Bool := c == '/' || (kind.isSpecial && c == '\\')

end SchemeKind

def isAnySlash (c : Char) : Bool := c == '/' || c == '\\'

def isOuterBlank (c : Char) : Bool := c.toNat ≤ 0x20

def isDropped (c : Char) : Bool := c == '\t' || c == '\n' || c == '\r'

def trimmed (cs : List Char) : List Char :=
  ((cs.dropWhile isOuterBlank).reverse.dropWhile isOuterBlank).reverse

def kept (cs : List Char) : List Char := cs.filter (!isDropped ·)

def isSchemeChar (c : Char) : Bool :=
  c.isAlphanum || c == '+' || c == '-' || c == '.'

def splitScheme (cs : List Char) : Option (List Char × List Char) :=
  match cs.head?, cs.dropWhile isSchemeChar with
  | some first, ':' :: rest =>
    if first.isAlpha then some ((cs.takeWhile isSchemeChar).map Char.toLower, rest)
    else none
  | _, _ => none

end TezosNode.Url
