import TezosNode.Text.Bytes

namespace TezosNode.Url

def upperHexChar (n : Nat) : Char := Char.ofNat (if n < 10 then 0x30 + n else 0x37 + n)

def percentByte (b : UInt8) : List Char :=
  ['%', upperHexChar (b.toNat / 16), upperHexChar (b.toNat % 16)]

def percentChar (c : Char) : List Char := (String.utf8EncodeChar c).flatMap percentByte

def isAscii (c : Char) : Bool := c.toNat < 0x80

def percentEncode (isEncoded : Char → Bool) (cs : List Char) : List Char :=
  cs.flatMap fun c => if isAscii c && !isEncoded c then [c] else percentChar c

def percentDecode : Bytes → Bytes
  | 0x25 :: high :: low :: rest =>
    match Ascii.hexDigit? high, Ascii.hexDigit? low with
    | some h, some l => UInt8.ofNat (h * 16 + l) :: percentDecode rest
    | _, _ => 0x25 :: percentDecode (high :: low :: rest)
  | b :: rest => b :: percentDecode rest
  | [] => []

def isControl (c : Char) : Bool := c.toNat < 0x20 || c.toNat == 0x7F

def inFragment (c : Char) : Bool :=
  isControl c || c == ' ' || c == '"' || c == '<' || c == '>' || c == '\x60'

def inQuery (c : Char) : Bool :=
  isControl c || c == ' ' || c == '"' || c == '#' || c == '<' || c == '>'

def inWebQuery (c : Char) : Bool := inQuery c || c == '\''

def inPath (c : Char) : Bool :=
  inFragment c || c == '#' || c == '?' || c == '\x7b' || c == '\x7d'

def inUserinfo (c : Char) : Bool :=
  inPath c || c == '/' || c == ':' || c == ';' || c == '=' || c == '@' || c == '[' || c == '\\' ||
    c == ']' || c == '^' || c == '|'

end TezosNode.Url
