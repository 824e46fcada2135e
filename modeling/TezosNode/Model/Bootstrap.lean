import TezosNode.Decode.Record

namespace TezosNode

open Decode Json

structure BootstrappedBlock where
  block : String
  timestamp : Time.Instant
  deriving DecidableEq, Repr, Inhabited

namespace BootstrappedBlock

def decoder : Decoder BootstrappedBlock :=
  Decoder.record "BootstrappedBlock" <|
    (Fields.make BootstrappedBlock.mk)
      |>.required "block" Decoder.text
      |>.required "timestamp" Decoder.instant

end BootstrappedBlock

inductive SyncState where
  | synced
  | unsynced
  | stuck
  | unknown
  deriving DecidableEq, Repr, Inhabited

namespace SyncState

def ofName (s : String) : SyncState :=
  if s = "synced" then synced
  else if s = "unsynced" then unsynced
  else if s = "stuck" then stuck
  else unknown

def oneMember (others : List (Literal × Document)) (ending : ObjectEnd) : Except Malformed Unit :=
  match others, ending with
  | [], .closed => .ok ()
  | [], .cutOff => .error .objectCutOff
  | _, _ => .error .noValue

/-- An object in a text: the state as its only key, `null` behind it. -/
def decodeText (source : Source) (members : List (Literal × Document)) (ending : ObjectEnd) :
    Except Fault SyncState :=
  match members with
  | (key, value) :: others => do
    let name ← sound key.text
    Decoder.unit.decode source value
    sound (oneMember others ending)
    pure (ofName name)
  | [] => .error (.malformed (if ending = .cutOff then .objectCutOff else .keyNotString))

/-- In a text anything but a string or an object is no value at all. -/
def textFault : Document → Malformed
  | .broken .absent => .valueCutOff
  | .broken .colonCutOff => .objectCutOff
  | .broken .badColon => .noColon
  | _ => .noValue

def decoder : Decoder SyncState where
  decode source document :=
    match source, document with
    | _, .string literal => (sound literal.text).map ofName
    | .text _, .object members ending => do
      let inner ← source.enter
      decodeText inner members ending
    | .text _, document => .error (.malformed (textFault document))
    | _, .object [(key, value)] _ => do
      let name ← sound key.text
      Decoder.unit.decode source value
      pure (ofName name)
    | _, .object _ _ => .error (.wrongValue .map .singleKey)
    | _, document => .error (mismatch .textOrMap document)

end SyncState

structure BootstrappedStatus where
  bootstrapped : Bool
  syncState : SyncState
  deriving DecidableEq, Repr, Inhabited

namespace BootstrappedStatus

def decoder : Decoder BootstrappedStatus :=
  Decoder.record "BootstrappedStatus" <|
    (Fields.make BootstrappedStatus.mk)
      |>.required "bootstrapped" Decoder.bool
      |>.required "sync_state" SyncState.decoder

def isHealthy (s : BootstrappedStatus) : Bool := s.bootstrapped && s.syncState = .synced

end BootstrappedStatus

end TezosNode
