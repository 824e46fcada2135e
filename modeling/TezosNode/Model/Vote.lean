import TezosNode.Decode.Record
import TezosNode.Decode.Elements

/-! Governance: ballots, listings, proposals and voting periods. -/

namespace TezosNode

open Decode Json

structure Ballot where
  pkh : String
  ballot : String
  deriving DecidableEq, Repr, Inhabited

namespace Ballot

def decoder : Decoder Ballot :=
  Decoder.record "Ballot" <|
    (Fields.make Ballot.mk)
      |>.required "pkh" Decoder.text
      |>.required "ballot" Decoder.text

def toValue (b : Ballot) : Value :=
  .object [("pkh", .string b.pkh), ("ballot", .string b.ballot)]

end Ballot

structure BallotListing where
  pkh : String
  rolls : Int64
  deriving DecidableEq, Repr, Inhabited

namespace BallotListing

def decoder : Decoder BallotListing :=
  Decoder.record "BallotListing" <|
    (Fields.make BallotListing.mk)
      |>.required "pkh" Decoder.text
      |>.required "rolls" Decoder.int64

def toValue (l : BallotListing) : Value :=
  .object [("pkh", .string l.pkh), ("rolls", .integer l.rolls.toInt)]

end BallotListing

structure Tally where
  yay : Int64
  nay : Int64
  pass : Int64
  deriving DecidableEq, Repr, Inhabited

namespace Tally

def decoder : Decoder Tally :=
  Decoder.record "Ballots" <|
    (Fields.make Tally.mk)
      |>.required "yay" Decoder.int64
      |>.required "nay" Decoder.int64
      |>.required "pass" Decoder.int64

def toValue (t : Tally) : Value :=
  .object [
    ("yay", .integer t.yay.toInt),
    ("nay", .integer t.nay.toInt),
    ("pass", .integer t.pass.toInt)]

end Tally

structure Proposal where
  hash : String
  supporters : Int64
  deriving DecidableEq, Repr, Inhabited

namespace Proposal

def decoder : Decoder Proposal :=
  (Decoder.pair Decoder.text Decoder.int64).map fun (hash, supporters) => ⟨hash, supporters⟩

/-- Written as an object, unlike it is read. -/
def toValue (p : Proposal) : Value :=
  .object [
    ("proposal_hash", .string p.hash),
    ("supporter_count", .integer p.supporters.toInt)]

end Proposal

structure PeriodKind where
  name : String
  deriving DecidableEq, Repr, Inhabited

namespace PeriodKind

def decoder : Decoder PeriodKind := Decoder.text.map .mk

def toValue (k : PeriodKind) : Value := .string k.name

def isProposal (k : PeriodKind) : Bool := k.name = "proposal"

def isTestingVote (k : PeriodKind) : Bool := k.name = "testing_vote"

def isTesting (k : PeriodKind) : Bool := k.name = "testing"

def isPromotionVote (k : PeriodKind) : Bool := k.name = "promotion_vote"

end PeriodKind

end TezosNode
