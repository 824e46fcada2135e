import TezosNode.Url.Pieces

namespace TezosNode.Url

/-- The characters from the first one on, and what they fold to, divided by blanks. -/
structure Row where
  first : Nat
  images : String

def Row.words (row : Row) : List (List Char) :=
  (pieces (fun c => c == ' ' || c == '\n') row.images.toList).filter (· ≠ [])

end TezosNode.Url
