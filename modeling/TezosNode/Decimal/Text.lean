import TezosNode.Decimal.Shortest

namespace TezosNode.Decimal

/-- Where positional notation begins and ends, by the exponent of the leading digit. -/
structure Style where
  least : Int
  most : Int

def jsonStyle : Style := ⟨-5, 15⟩

def positional (digits : List Char) (leading : Int) : List Char :=
  if leading < 0 then
    ['0', '.'] ++ List.replicate (leading.natAbs - 1) '0' ++ digits
  else
    let count := leading.toNat + 1
    if digits.length ≤ count then
      digits ++ List.replicate (count - digits.length) '0' ++ ['.', '0']
    else digits.take count ++ ['.'] ++ digits.drop count

def scientific (digits : List Char) (leading : Int) : List Char :=
  let mantissa := match digits with
    | [] => ['0']
    | [d] => [d]
    | d :: ds => d :: '.' :: ds
  mantissa ++ ['e', if leading < 0 then '-' else '+'] ++ (Nat.repr leading.natAbs).toList

def render (style : Style) (bits : UInt64) : String :=
  let negative := twoTo 63 ≤ bits.toNat
  let magnitude :=
    if bits.toNat % twoTo 63 = 0 then ['0', '.', '0']
    else
      let decimal := shortest bits
      let digits := (Nat.repr decimal.digits).toList
      let leading := decimal.exponent + digits.length - 1
      if style.least ≤ leading ∧ leading ≤ style.most then positional digits leading
      else scientific digits leading
  String.ofList (if negative then '-' :: magnitude else magnitude)

end TezosNode.Decimal
