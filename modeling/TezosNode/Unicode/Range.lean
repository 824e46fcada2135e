namespace TezosNode.Unicode

def inRanges (ranges : List (Nat × Nat)) (n : Nat) : Bool :=
  ranges.any fun (low, high) => low ≤ n && n ≤ high

def keyOf? (sets : List (α × List (Nat × Nat))) (n : Nat) : Option α :=
  (sets.find? fun (_, ranges) => inRanges ranges n).map (·.1)

end TezosNode.Unicode
