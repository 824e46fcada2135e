import TezosNode.Unicode.Direction
import TezosNode.Unicode.Joining
import TezosNode.Url.Folding
import TezosNode.Url.Punycode

namespace TezosNode.Url

open Unicode

def isForbidden (c : Char) : Bool :=
  isControl c || c == ' ' || c == '%' || c == '#' || c == '/' || c == ':' || c == '<' || c == '>' ||
    c == '?' || c == '@' || c == '[' || c == '\\' || c == ']' || c == '^' || c == '|'

def nonJoiner : Char := '\u200c'

def joiner : Char := '\u200d'

/-- Whether a joiner shows: behind a mark that silences a vowel, or, where it keeps letters apart,
between letters that would join. The text before it is in reverse. -/
def joinerShows (before : List Char) (c : Char) (after : List Char) : Bool :=
  match before with
  | [] => false
  | last :: _ =>
    isVirama last.toNat ||
      (c == nonJoiner &&
        (before.dropWhile (isTransparent ·.toNat)).head?.any (joinsNext ·.toNat) &&
        (after.dropWhile (isTransparent ·.toNat)).head?.any (joinsPrevious ·.toNat))

def joinersShow (before : List Char) : List Char → Bool
  | [] => true
  | c :: after =>
    (!(c == nonJoiner || c == joiner) || joinerShows before c after) && joinersShow (c :: before) after

def isRightward (label : List Char) : Bool :=
  label.any fun c =>
    !isAscii c && (direction c.toNat = .rightToLeft || direction c.toNat = .arabicDigit)

def keepsDirection (label : List Char) : Bool :=
  match label.map (direction ·.toNat) with
  | [] => true
  | first :: rest =>
    let rest := (rest.reverse.dropWhile (· = .mark))
    match first with
    | .leftToRight =>
      rest.all (fun d => d ≠ .rightToLeft && d ≠ .arabicDigit) &&
        rest.head?.all fun d => d = .leftToRight || d = .europeanDigit
    | .rightToLeft =>
      rest.all (· ≠ .leftToRight) &&
        rest.head?.all (fun d => d = .rightToLeft || d = .europeanDigit || d = .arabicDigit) &&
        !(rest.contains .europeanDigit && rest.contains .arabicDigit)
    | _ => false

def longestLabel : Nat := 1000

def longestPunycode : Nat := 2000

def isLabel (cs : List Char) : Bool :=
  !cs.any isForbidden && !cs.head?.any (isMark ·.toNat) && joinersShow [] cs &&
    (cs.all isAscii || cs.length ≤ longestLabel)

def punycodeMark : List Char := ['x', 'n', '-', '-']

/-- The text that Punycode digits stand for. It must be folded already. -/
def unfoldPunycode (digits : List Char) : Option (List Char) := do
  guard (digits.all isAscii && digits.getLast?.any (· ≠ '-') && digits.length ≤ longestPunycode)
  let label ← Punycode.decode digits
  guard (folded? label = some label && !label.contains '.')
  pure label

def readLabel (cs : List Char) : Option (List Char) := do
  let label ← if punycodeMark.isPrefixOf cs then unfoldPunycode (cs.drop 4) else some cs
  guard (isLabel label)
  pure label

def asciiLabel (label : List Char) : List Char :=
  if label.all isAscii then label else punycodeMark ++ Punycode.encode label

end TezosNode.Url
