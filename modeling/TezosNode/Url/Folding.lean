import TezosNode.Unicode.Composition
import TezosNode.Url.Folding.Arabic
import TezosNode.Url.Folding.Ideograph
import TezosNode.Url.Folding.Letter
import TezosNode.Url.Folding.Shift
import TezosNode.Url.Folding.Symbol
import TezosNode.Url.Folding.Unusable
import TezosNode.Url.Percent

/-!
Folding: a domain name is the same in capitals, in wide letters or in letters drawn specially. Each
character stands for the text that it folds to, which is often itself and may be nothing.
-/

namespace TezosNode.Url

open Unicode

def rowImages : List (Nat × List (List Char)) :=
  (latinRows ++ scriptRows ++ semiticRows ++ arabicSignRows ++ signRows ++ mathRows ++ radicalRows ++
    squareRows).map fun row => (row.first, row.words)

def image? (n : Nat) : Option (List Char) :=
  ((shifts.findSome? (·.image? n)).map fun m => [Char.ofNat m]) <|>
    rowImages.findSome? fun (first, words) => if first ≤ n then words[n - first]? else none

/-- What a character of a domain name stands for; `none` for one that no name holds. -/
def fold (c : Char) : Option (List Char) :=
  if isAscii c then some [c.toLower]
  else if inRanges droppedRanges c.toNat then some []
  else if inRanges unusableRanges c.toNat then none
  else some ((image? c.toNat).getD [c])

def composed (cs : List Char) : List Char := (compose (cs.map Char.toNat)).map Char.ofNat

def folded? (cs : List Char) : Option (List Char) := (cs.mapM fold).map fun images => composed images.flatten

end TezosNode.Url
