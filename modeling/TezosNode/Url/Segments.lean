import TezosNode.Url.Basic

namespace TezosNode.Url

def plainDots : List Char → List Char
  | '%' :: '2' :: 'e' :: cs | '%' :: '2' :: 'E' :: cs => '.' :: plainDots cs
  | c :: cs => c :: plainDots cs
  | [] => []

def isSingleDot (segment : List Char) : Bool := plainDots segment == ['.']

def isDoubleDot (segment : List Char) : Bool := plainDots segment == ['.', '.']

def isDrive : List Char → Bool
  | [letter, mark] => letter.isAlpha && (mark == ':' || mark == '|')
  | _ => false

/-- Takes the last segment away. A drive stays, whatever the scheme. -/
def dropLast : List (List Char) → List (List Char)
  | [] => []
  | segment :: before => if isDrive (segment.takeWhile (· != '\\')) then segment :: before else before

def addSegment (isLast : Bool) (before : List (List Char)) (raw : List Char) : List (List Char) :=
  let segment := percentEncode inPath raw
  let ended := fun segments : List (List Char) => if isLast then [] :: segments else segments
  if isDoubleDot segment then ended (dropLast before)
  else if isSingleDot segment then ended before
  else segment :: before

def addSegments (add : Bool → List (List Char) → List Char → List (List Char))
    (before : List (List Char)) : List (List Char) → List (List Char)
  | [] => before
  | [last] => add true before last
  | raw :: rest => addSegments add (add false before raw) rest

def readSegments (isSlash : Char → Bool) (before : List (List Char)) (cs : List Char) : Path :=
  .segments (addSegments addSegment before.reverse (pieces isSlash cs)).reverse

def readPath (isSlash : Char → Bool) : List Char → Path
  | [] => readSegments isSlash [] []
  | c :: cs => readSegments isSlash [] (if isSlash c then cs else c :: cs)

end TezosNode.Url
