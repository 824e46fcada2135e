import TezosNode.Text.Bytes

namespace TezosNode.Text

inductive HexFault where
  | oddLength
  | badDigit (byte : UInt8) (index : Nat)
  deriving DecidableEq, Repr, Inhabited

def hexChar (n : Nat) : Char := Char.ofNat (if n < 10 then 0x30 + n else 0x57 + n)

def hexOf (bytes : Bytes) : String :=
  String.ofList (bytes.flatMap fun b => [hexChar (b.toNat / 16), hexChar (b.toNat % 16)])

def readHexFrom (index : Nat) : Bytes → Except HexFault Bytes
  | high :: low :: rest =>
    match Ascii.hexDigit? high, Ascii.hexDigit? low with
    | none, _ => .error (.badDigit high index)
    | some _, none => .error (.badDigit low (index + 1))
    | some h, some l => (readHexFrom (index + 2) rest).map (UInt8.ofNat (h * 16 + l) :: ·)
  | _ => .ok []

def readHex (s : String) : Except HexFault Bytes :=
  let bytes := Bytes.ofString s
  if bytes.length % 2 = 1 then .error .oddLength else readHexFrom 0 bytes

end TezosNode.Text
