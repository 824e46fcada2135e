import TezosNode.Model.Metadata

/-!
Contents of operations. The `kind` of a content says which record it is; of a kind that is not
registered only the kind is kept.
-/

namespace TezosNode

open Decode Json

namespace Content

structure Common where
  kind : String
  deriving DecidableEq, Repr, Inhabited

namespace Common

def fields : Fields Common := (Fields.make Common.mk) |>.required "kind" Decoder.text

def decoder : Decoder Common := Decoder.record "GenericOperationElem" fields

def members (c : Common) : List (String × Value) := [("kind", .string c.kind)]

end Common

structure Manager where
  source : String
  fee : Option Amount
  counter : Option Amount
  gasLimit : Option Amount
  storageLimit : Option Amount
  deriving DecidableEq, Repr, Inhabited

namespace Manager

def fields (make : Manager → α) : Fields α :=
  (Fields.make fun source fee counter gas storage => make ⟨source, fee, counter, gas, storage⟩)
    |>.required "source" Decoder.text
    |>.optional "fee" Amount.decoder
    |>.optional "counter" Amount.decoder
    |>.optional "gas_limit" Amount.decoder
    |>.optional "storage_limit" Amount.decoder

def members (m : Manager) : List (String × Value) := [
  ("source", .string m.source),
  ("fee", optionalToValue Amount.toValue m.fee),
  ("counter", optionalToValue Amount.toValue m.counter),
  ("gas_limit", optionalToValue Amount.toValue m.gasLimit),
  ("storage_limit", optionalToValue Amount.toValue m.storageLimit)]

end Manager

structure Endorsement where
  common : Common
  level : Int32
  metadata : EndorsementMetadata
  deriving DecidableEq, Repr, Inhabited

def Endorsement.decoder : Decoder Endorsement :=
  Decoder.flattened "EndorsementOperationElem"
    ((Fields.make fun level metadata common => ⟨common, level, metadata⟩)
      |>.required "level" Decoder.int32
      |>.orElse "metadata" EndorsementMetadata.decoder ⟨[], "", []⟩)
    (.fields Common.fields)

def Endorsement.toValue (c : Endorsement) : Value :=
  .object (c.common.members ++ [
    ("level", .integer c.level.toInt),
    ("metadata", c.metadata.toValue)])

structure Transaction where
  common : Common
  manager : Manager
  amount : Amount
  destination : String
  parameters : Option Value
  metadata : ManagerMetadata
  deriving Inhabited, BEq

def Transaction.decoder : Decoder Transaction :=
  Decoder.flattened "TransactionOperationElem"
    ((Manager.fields fun manager amount destination parameters metadata common =>
        ⟨common, manager, amount, destination, parameters, metadata⟩)
      |>.required "amount" Amount.decoder
      |>.required "destination" Decoder.text
      |>.optional "parameters" Decoder.any
      |>.orElse "metadata" ManagerMetadata.decoder .blank)
    (.fields Common.fields)

def Transaction.toValue (c : Transaction) : Value :=
  .object (c.common.members ++ c.manager.members ++ [
    ("amount", c.amount.toValue),
    ("destination", .string c.destination)] ++
    optionalMember "parameters" id c.parameters ++ [
    ("metadata", c.metadata.toValue)])

structure Ballot where
  common : Common
  source : String
  period : Int32
  proposal : String
  ballot : String
  metadata : Option Value
  deriving Inhabited, BEq

def Ballot.decoder : Decoder Ballot :=
  Decoder.flattened "BallotOperationElem"
    ((Fields.make fun source period proposal ballot metadata common =>
        ⟨common, source, period, proposal, ballot, metadata⟩)
      |>.required "source" Decoder.text
      |>.required "period" Decoder.int32
      |>.required "proposal" Decoder.text
      |>.required "ballot" Decoder.text
      |>.optional "metadata" Decoder.any)
    (.fields Common.fields)

def Ballot.toValue (c : Ballot) : Value :=
  .object (c.common.members ++ [
    ("source", .string c.source),
    ("period", .integer c.period.toInt),
    ("proposal", .string c.proposal),
    ("ballot", .string c.ballot)] ++
    optionalMember "metadata" id c.metadata)

structure Proposals where
  common : Common
  source : String
  period : Int32
  proposals : List String
  metadata : Option Value
  deriving Inhabited, BEq

def Proposals.decoder : Decoder Proposals :=
  Decoder.flattened "ProposalsOperationElem"
    ((Fields.make fun source period proposals metadata common =>
        ⟨common, source, period, proposals, metadata⟩)
      |>.required "source" Decoder.text
      |>.required "period" Decoder.int32
      |>.required "proposals" Decoder.text.list
      |>.optional "metadata" Decoder.any)
    (.fields Common.fields)

def Proposals.toValue (c : Proposals) : Value :=
  .object (c.common.members ++ [
    ("source", .string c.source),
    ("period", .integer c.period.toInt),
    ("proposals", textsToValue c.proposals)] ++
    optionalMember "metadata" id c.metadata)

structure SeedNonceRevelation where
  common : Common
  level : Int32
  nonce : String
  metadata : UpdatesMetadata
  deriving DecidableEq, Repr, Inhabited

def SeedNonceRevelation.decoder : Decoder SeedNonceRevelation :=
  Decoder.flattened "SeedNonceRevelationOperationElem"
    ((Fields.make fun level nonce metadata common => ⟨common, level, nonce, metadata⟩)
      |>.required "level" Decoder.int32
      |>.required "nonce" Decoder.text
      |>.orElse "metadata" UpdatesMetadata.decoder ⟨[]⟩)
    (.fields Common.fields)

def SeedNonceRevelation.toValue (c : SeedNonceRevelation) : Value :=
  .object (c.common.members ++ [
    ("level", .integer c.level.toInt),
    ("nonce", .string c.nonce),
    ("metadata", c.metadata.toValue)])

structure InlinedContents where
  kind : String
  level : Int32
  deriving DecidableEq, Repr, Inhabited

def InlinedContents.decoder : Decoder InlinedContents :=
  Decoder.record "InlinedEndorsementContents" <|
    (Fields.make InlinedContents.mk)
      |>.orElse "kind" Decoder.text ""
      |>.orElse "level" Decoder.int32 0

def InlinedContents.toValue (c : InlinedContents) : Value :=
  .object [("kind", .string c.kind), ("level", .integer c.level.toInt)]

structure InlinedEndorsement where
  branch : String
  operations : InlinedContents
  signature : String
  deriving DecidableEq, Repr, Inhabited

def InlinedEndorsement.decoder : Decoder InlinedEndorsement :=
  Decoder.record "InlinedEndorsement" <|
    (Fields.make InlinedEndorsement.mk)
      |>.orElse "branch" Decoder.text ""
      |>.orElse "operations" InlinedContents.decoder ⟨"", 0⟩
      |>.orElse "signature" Decoder.text ""

def InlinedEndorsement.toValue (e : InlinedEndorsement) : Value :=
  .object [
    ("branch", .string e.branch),
    ("operations", e.operations.toValue),
    ("signature", .string e.signature)]

structure DoubleEndorsementEvidence where
  common : Common
  op1 : InlinedEndorsement
  op2 : InlinedEndorsement
  metadata : UpdatesMetadata
  deriving DecidableEq, Repr, Inhabited

def DoubleEndorsementEvidence.decoder : Decoder DoubleEndorsementEvidence :=
  Decoder.flattened "DoubleEndorsementEvidenceOperationElem"
    ((Fields.make fun op1 op2 metadata common => ⟨common, op1, op2, metadata⟩)
      |>.required "op1" InlinedEndorsement.decoder
      |>.required "op2" InlinedEndorsement.decoder
      |>.orElse "metadata" UpdatesMetadata.decoder ⟨[]⟩)
    (.fields Common.fields)

def DoubleEndorsementEvidence.toValue (c : DoubleEndorsementEvidence) : Value :=
  .object (c.common.members ++ [
    ("op1", c.op1.toValue),
    ("op2", c.op2.toValue),
    ("metadata", c.metadata.toValue)])

structure DoubleBakingEvidence where
  common : Common
  bh1 : BlockHeader
  bh2 : BlockHeader
  metadata : UpdatesMetadata
  deriving DecidableEq, Inhabited

def DoubleBakingEvidence.decoder : Decoder DoubleBakingEvidence :=
  Decoder.flattened "DoubleBakingEvidenceOperationElem"
    ((Fields.make fun bh1 bh2 metadata common => ⟨common, bh1, bh2, metadata⟩)
      |>.required "bh1" BlockHeader.decoder
      |>.required "bh2" BlockHeader.decoder
      |>.orElse "metadata" UpdatesMetadata.decoder ⟨[]⟩)
    (.fields Common.fields)

def DoubleBakingEvidence.toValue (c : DoubleBakingEvidence) : Value :=
  .object (c.common.members ++ [
    ("bh1", c.bh1.toValue),
    ("bh2", c.bh2.toValue),
    ("metadata", c.metadata.toValue)])

structure ActivateAccount where
  common : Common
  pkh : String
  secret : String
  metadata : UpdatesMetadata
  deriving DecidableEq, Repr, Inhabited

def ActivateAccount.decoder : Decoder ActivateAccount :=
  Decoder.flattened "ActivateAccountOperationElem"
    ((Fields.make fun pkh secret metadata common => ⟨common, pkh, secret, metadata⟩)
      |>.required "pkh" Decoder.text
      |>.required "secret" Decoder.text
      |>.orElse "metadata" UpdatesMetadata.decoder ⟨[]⟩)
    (.fields Common.fields)

def ActivateAccount.toValue (c : ActivateAccount) : Value :=
  .object (c.common.members ++ [
    ("pkh", .string c.pkh),
    ("secret", .string c.secret),
    ("metadata", c.metadata.toValue)])

structure Reveal where
  common : Common
  manager : Manager
  publicKey : String
  metadata : ManagerMetadata
  deriving Inhabited, BEq

def Reveal.decoder : Decoder Reveal :=
  Decoder.flattened "RevealOperationElem"
    ((Manager.fields fun manager publicKey metadata common =>
        ⟨common, manager, publicKey, metadata⟩)
      |>.required "public_key" Decoder.text
      |>.orElse "metadata" ManagerMetadata.decoder .blank)
    (.fields Common.fields)

def Reveal.toValue (c : Reveal) : Value :=
  .object (c.common.members ++ c.manager.members ++ [
    ("public_key", .string c.publicKey),
    ("metadata", c.metadata.toValue)])

structure Script where
  code : Value
  storage : Value
  deriving Inhabited, BEq

def Script.decoder : Decoder Script :=
  Decoder.record "ScriptedContracts" <|
    (Fields.make Script.mk)
      |>.required "code" Decoder.any
      |>.required "storage" Decoder.any

def Script.toValue (s : Script) : Value :=
  .object [("code", s.code), ("storage", s.storage)]

structure Origination where
  common : Common
  manager : Manager
  managerPubkey : Option String
  balance : Amount
  spendable : Option Bool
  delegatable : Option Bool
  delegate : Option String
  script : Option Script
  metadata : ManagerMetadata
  deriving Inhabited, BEq

def Origination.decoder : Decoder Origination :=
  Decoder.flattened "OriginationOperationElem"
    ((Manager.fields fun manager managerPubkey balance spendable delegatable delegate script metadata
          common =>
        ⟨common, manager, managerPubkey, balance, spendable, delegatable, delegate, script, metadata⟩)
      |>.optional "managerPubkey" Decoder.text
      |>.required "balance" Amount.decoder
      |>.optional "spendable" Decoder.bool
      |>.optional "delegatable" Decoder.bool
      |>.optional "delegate" Decoder.text
      |>.optional "script" Script.decoder
      |>.orElse "metadata" ManagerMetadata.decoder .blank)
    (.fields Common.fields)

def Origination.toValue (c : Origination) : Value :=
  .object (c.common.members ++ c.manager.members ++
    optionalMember "managerPubkey" .string c.managerPubkey ++ [
    ("balance", c.balance.toValue)] ++
    optionalMember "spendable" .bool c.spendable ++
    optionalMember "delegatable" .bool c.delegatable ++
    optionalMember "delegate" .string c.delegate ++
    optionalMember "script" Script.toValue c.script ++ [
    ("metadata", c.metadata.toValue)])

structure Delegation where
  common : Common
  manager : Manager
  /-- The new delegate; none when the delegation is withdrawn. -/
  delegate : Option String
  metadata : ManagerMetadata
  deriving Inhabited, BEq

def Delegation.decoder : Decoder Delegation :=
  Decoder.flattened "DelegationOperationElem"
    ((Manager.fields fun manager delegate metadata common => ⟨common, manager, delegate, metadata⟩)
      |>.optional "delegate" Decoder.text
      |>.orElse "metadata" ManagerMetadata.decoder .blank)
    (.fields Common.fields)

def Delegation.toValue (c : Delegation) : Value :=
  .object (c.common.members ++ c.manager.members ++
    optionalMember "delegate" .string c.delegate ++ [
    ("metadata", c.metadata.toValue)])

end Content

inductive Content where
  | endorsement (content : Content.Endorsement)
  | transaction (content : Content.Transaction)
  | ballot (content : Content.Ballot)
  | proposals (content : Content.Proposals)
  | seedNonceRevelation (content : Content.SeedNonceRevelation)
  | doubleEndorsementEvidence (content : Content.DoubleEndorsementEvidence)
  | doubleBakingEvidence (content : Content.DoubleBakingEvidence)
  | activateAccount (content : Content.ActivateAccount)
  | reveal (content : Content.Reveal)
  | origination (content : Content.Origination)
  | delegation (content : Content.Delegation)
  | other (common : Content.Common)
  deriving Inhabited, BEq

namespace Content

def common : Content → Common
  | endorsement c => c.common
  | transaction c => c.common
  | ballot c => c.common
  | proposals c => c.common
  | seedNonceRevelation c => c.common
  | doubleEndorsementEvidence c => c.common
  | doubleBakingEvidence c => c.common
  | activateAccount c => c.common
  | reveal c => c.common
  | origination c => c.common
  | delegation c => c.common
  | other common => common

def kind (c : Content) : String := c.common.kind

def balanceUpdates? : Content → Option (List BalanceUpdate)
  | endorsement c => some c.metadata.balanceUpdates
  | transaction c => some c.metadata.balanceUpdates
  | seedNonceRevelation c => some c.metadata.balanceUpdates
  | doubleEndorsementEvidence c => some c.metadata.balanceUpdates
  | doubleBakingEvidence c => some c.metadata.balanceUpdates
  | activateAccount c => some c.metadata.balanceUpdates
  | reveal c => some c.metadata.balanceUpdates
  | origination c => some c.metadata.balanceUpdates
  | delegation c => some c.metadata.balanceUpdates
  | ballot _ | proposals _ | other _ => none

def manager? : Content → Option Manager
  | transaction c => some c.manager
  | reveal c => some c.manager
  | origination c => some c.manager
  | delegation c => some c.manager
  | _ => none

/-- The fee of a manager operation; one that names no fee pays zero. -/
def fee? (c : Content) : Option Amount := c.manager?.map fun manager => manager.fee.getD .zero

def family : Family Common Content where
  common := Common.decoder
  tag := Common.kind
  members := [
    ("endorsement", Endorsement.decoder.map .endorsement),
    ("transaction", Transaction.decoder.map .transaction),
    ("ballot", Ballot.decoder.map .ballot),
    ("proposals", Proposals.decoder.map .proposals),
    ("seed_nonce_revelation", SeedNonceRevelation.decoder.map .seedNonceRevelation),
    ("double_endorsement_evidence", DoubleEndorsementEvidence.decoder.map .doubleEndorsementEvidence),
    ("double_baking_evidence", DoubleBakingEvidence.decoder.map .doubleBakingEvidence),
    ("activate_account", ActivateAccount.decoder.map .activateAccount),
    ("reveal", Reveal.decoder.map .reveal),
    ("origination", Origination.decoder.map .origination),
    ("delegation", Delegation.decoder.map .delegation)]
  other := .other

def decoder : Decoder Content := family.decoder

def toValue : Content → Value
  | endorsement c => c.toValue
  | transaction c => c.toValue
  | ballot c => c.toValue
  | proposals c => c.toValue
  | seedNonceRevelation c => c.toValue
  | doubleEndorsementEvidence c => c.toValue
  | doubleBakingEvidence c => c.toValue
  | activateAccount c => c.toValue
  | reveal c => c.toValue
  | origination c => c.toValue
  | delegation c => c.toValue
  | other common => .object common.members

end Content

end TezosNode
