import TezosNode.Proofs.Decode.Growth
import TezosNode.Proofs.Model.Sources

namespace TezosNode

open Decode Json Decoder

def BlockHeader.shape : Shape :=
  .record <| Layout.blank
    |>.field "level" .plain
    |>.field "proto" .plain
    |>.field "predecessor" .plain
    |>.field "timestamp" .plain
    |>.field "validation_pass" .plain
    |>.field "operations_hash" .plain
    |>.field "fitness" .plain
    |>.field "context" .plain
    |>.field "priority" .plain
    |>.field "proof_of_work_nonce" .plain
    |>.field "seed_nonce_hash" .plain
    |>.field "signature" .plain

instance : Tolerates BlockHeader.decoder BlockHeader.shape :=
  inferInstanceAs (Tolerates (record ..) (.record _))

namespace BalanceUpdate

abbrev Common.layout : Layout := Layout.blank |>.field "kind" .plain |>.field "change" .plain

instance : Common.fields.Tolerates Common.layout :=
  inferInstanceAs (Fields.Tolerates (Fields.required ..) (.field ..))

abbrev Contract.layout : Layout := Layout.blank |>.field "contract" .plain

instance : Tolerates Contract.decoder (.record (Contract.layout ++ Common.layout)) :=
  flattened_tolerates (by decide)

abbrev Freezer.layout : Layout :=
  Layout.blank
    |>.field "category" .plain
    |>.field "delegate" .plain
    |>.field "level" .plain

instance : Tolerates Freezer.decoder (.record (Freezer.layout ++ Common.layout)) :=
  flattened_tolerates (by decide)

theorem Common.told (members : List (String × Value)) (c : Common)
    (decoded : Common.decoder.ofValue (.object members) = .ok c) :
    members.lookup "kind" = some (.string c.kind) := by
  obtain ⟨⟨⟨⟨⟩, kind?⟩, change?⟩, fills, finished⟩ := record_fills decoded
  obtain ⟨kinds, _⟩ := (Fields.fill_field_iff (by decide)).mp fills
  cases kind? with
  | none => cases finished
  | some kind =>
    cases change? with
    | none => cases finished
    | some change =>
      cases finished
      exact Fields.fill_text_told (by decide) kinds

abbrev rows : List (String × Layout) := [("contract", Contract.layout), ("freezer", Freezer.layout)]

def shape : Shape := .tagged "kind" Common.layout rows

instance : Rows Common.layout family.members rows := inferInstanceAs (Rows _ (_ :: _) (_ :: _))

instance : family.Tolerates shape := Family.tolerates_of_rows rfl Common.told

end BalanceUpdate

def UpdatesMetadata.shape : Shape :=
  .record <| Layout.blank |>.field "balance_updates" (.many BalanceUpdate.shape)

instance : Tolerates UpdatesMetadata.decoder UpdatesMetadata.shape :=
  inferInstanceAs (Tolerates (record ..) (.record _))

def EndorsementMetadata.shape : Shape :=
  .record <| Layout.blank
    |>.field "balance_updates" (.many BalanceUpdate.shape)
    |>.field "delegate" .plain
    |>.field "slots" .plain

instance : Tolerates EndorsementMetadata.decoder EndorsementMetadata.shape :=
  inferInstanceAs (Tolerates (record ..) (.record _))

def ManagerResult.shape : Shape :=
  .record <| Layout.blank
    |>.field "status" .plain
    |>.field "storage" .plain
    |>.field "balance_updates" (.many BalanceUpdate.shape)
    |>.field "originated_contracts" .plain
    |>.field "consumed_gas" .plain
    |>.field "storage_size" .plain
    |>.field "paid_storage_size_diff" .plain
    |>.field "errors" .plain

instance : Tolerates ManagerResult.decoder ManagerResult.shape :=
  inferInstanceAs (Tolerates (record ..) (.record _))

def ManagerMetadata.shape : Shape :=
  .record <| Layout.blank
    |>.field "balance_updates" (.many BalanceUpdate.shape)
    |>.field "operation_result" ManagerResult.shape

instance : Tolerates ManagerMetadata.decoder ManagerMetadata.shape :=
  inferInstanceAs (Tolerates (record ..) (.record _))

namespace Content

abbrev Common.layout : Layout := Layout.blank |>.field "kind" .plain

instance : Common.fields.Tolerates Common.layout :=
  inferInstanceAs (Fields.Tolerates (Fields.required ..) (.field ..))

abbrev Manager.layout : Layout :=
  Layout.blank
    |>.field "source" .plain
    |>.field "fee" .plain
    |>.field "counter" .plain
    |>.field "gas_limit" .plain
    |>.field "storage_limit" .plain

instance {α : Type} (make : Manager → α) : (Manager.fields make).Tolerates Manager.layout :=
  inferInstanceAs (Fields.Tolerates (Fields.optional ..) (.field ..))

def InlinedContents.shape : Shape := .record <| Layout.blank |>.field "kind" .plain |>.field "level" .plain

instance : Tolerates InlinedContents.decoder InlinedContents.shape :=
  inferInstanceAs (Tolerates (record ..) (.record _))

def InlinedEndorsement.shape : Shape :=
  .record <| Layout.blank
    |>.field "branch" .plain
    |>.field "operations" InlinedContents.shape
    |>.field "signature" .plain

instance : Tolerates InlinedEndorsement.decoder InlinedEndorsement.shape :=
  inferInstanceAs (Tolerates (record ..) (.record _))

def Script.shape : Shape := .record <| Layout.blank |>.field "code" .plain |>.field "storage" .plain

instance : Tolerates Script.decoder Script.shape :=
  inferInstanceAs (Tolerates (record ..) (.record _))

abbrev Endorsement.layout : Layout :=
  Layout.blank
    |>.field "level" .plain
    |>.field "metadata" EndorsementMetadata.shape

instance : Tolerates Endorsement.decoder (.record (Endorsement.layout ++ Common.layout)) :=
  flattened_tolerates (by decide)

abbrev Transaction.layout : Layout :=
  Manager.layout
    |>.field "amount" .plain
    |>.field "destination" .plain
    |>.field "parameters" .plain
    |>.field "metadata" ManagerMetadata.shape

instance : Tolerates Transaction.decoder (.record (Transaction.layout ++ Common.layout)) :=
  flattened_tolerates (by decide)

abbrev Ballot.layout : Layout :=
  Layout.blank
    |>.field "source" .plain
    |>.field "period" .plain
    |>.field "proposal" .plain
    |>.field "ballot" .plain
    |>.field "metadata" .plain

instance : Tolerates Ballot.decoder (.record (Ballot.layout ++ Common.layout)) :=
  flattened_tolerates (by decide)

abbrev Proposals.layout : Layout :=
  Layout.blank
    |>.field "source" .plain
    |>.field "period" .plain
    |>.field "proposals" .plain
    |>.field "metadata" .plain

instance : Tolerates Proposals.decoder (.record (Proposals.layout ++ Common.layout)) :=
  flattened_tolerates (by decide)

abbrev SeedNonceRevelation.layout : Layout :=
  Layout.blank
    |>.field "level" .plain
    |>.field "nonce" .plain
    |>.field "metadata" UpdatesMetadata.shape

instance : Tolerates SeedNonceRevelation.decoder (.record (SeedNonceRevelation.layout ++ Common.layout)) :=
  flattened_tolerates (by decide)

abbrev DoubleEndorsementEvidence.layout : Layout :=
  Layout.blank
    |>.field "op1" InlinedEndorsement.shape
    |>.field "op2" InlinedEndorsement.shape
    |>.field "metadata" UpdatesMetadata.shape

instance : Tolerates DoubleEndorsementEvidence.decoder
    (.record (DoubleEndorsementEvidence.layout ++ Common.layout)) :=
  flattened_tolerates (by decide)

abbrev DoubleBakingEvidence.layout : Layout :=
  Layout.blank
    |>.field "bh1" BlockHeader.shape
    |>.field "bh2" BlockHeader.shape
    |>.field "metadata" UpdatesMetadata.shape

instance : Tolerates DoubleBakingEvidence.decoder (.record (DoubleBakingEvidence.layout ++ Common.layout)) :=
  flattened_tolerates (by decide)

abbrev ActivateAccount.layout : Layout :=
  Layout.blank
    |>.field "pkh" .plain
    |>.field "secret" .plain
    |>.field "metadata" UpdatesMetadata.shape

instance : Tolerates ActivateAccount.decoder (.record (ActivateAccount.layout ++ Common.layout)) :=
  flattened_tolerates (by decide)

abbrev Reveal.layout : Layout :=
  Manager.layout
    |>.field "public_key" .plain
    |>.field "metadata" ManagerMetadata.shape

instance : Tolerates Reveal.decoder (.record (Reveal.layout ++ Common.layout)) :=
  flattened_tolerates (by decide)

abbrev Origination.layout : Layout :=
  Manager.layout
    |>.field "managerPubkey" .plain
    |>.field "balance" .plain
    |>.field "spendable" .plain
    |>.field "delegatable" .plain
    |>.field "delegate" .plain
    |>.field "script" Script.shape
    |>.field "metadata" ManagerMetadata.shape

instance : Tolerates Origination.decoder (.record (Origination.layout ++ Common.layout)) :=
  flattened_tolerates (by decide)

abbrev Delegation.layout : Layout :=
  Manager.layout
    |>.field "delegate" .plain
    |>.field "metadata" ManagerMetadata.shape

instance : Tolerates Delegation.decoder (.record (Delegation.layout ++ Common.layout)) :=
  flattened_tolerates (by decide)

theorem Common.told (members : List (String × Value)) (c : Common)
    (decoded : Common.decoder.ofValue (.object members) = .ok c) :
    members.lookup "kind" = some (.string c.kind) := by
  obtain ⟨⟨⟨⟩, kind?⟩, fills, finished⟩ := record_fills decoded
  cases kind? with
  | none => cases finished
  | some kind =>
    cases finished
    exact Fields.fill_text_told (by decide) fills

abbrev rows : List (String × Layout) := [
  ("endorsement", Endorsement.layout),
  ("transaction", Transaction.layout),
  ("ballot", Ballot.layout),
  ("proposals", Proposals.layout),
  ("seed_nonce_revelation", SeedNonceRevelation.layout),
  ("double_endorsement_evidence", DoubleEndorsementEvidence.layout),
  ("double_baking_evidence", DoubleBakingEvidence.layout),
  ("activate_account", ActivateAccount.layout),
  ("reveal", Reveal.layout),
  ("origination", Origination.layout),
  ("delegation", Delegation.layout)]

def shape : Shape := .tagged "kind" Common.layout rows

instance : Rows Common.layout family.members rows := inferInstanceAs (Rows _ (_ :: _) (_ :: _))

instance : family.Tolerates shape := Family.tolerates_of_rows rfl Common.told

end Content

abbrev Operation.layout : Layout :=
  Layout.blank
    |>.field "protocol" .plain
    |>.field "chain_id" .plain
    |>.field "hash" .plain
    |>.field "branch" .plain
    |>.field "contents" (.many Content.shape)
    |>.field "signature" .plain

instance : Operation.fields.Tolerates Operation.layout :=
  inferInstanceAs (Fields.Tolerates (Fields.orElse ..) (.field ..))

def Operation.shape : Shape := .record Operation.layout

instance : Tolerates Operation.decoder Operation.shape :=
  inferInstanceAs (Tolerates (record ..) (.record _))

abbrev RefusedOperation.layout : Layout := Layout.blank |>.field "error" .plain

def RefusedOperation.shape : Shape := .record (RefusedOperation.layout ++ Operation.layout)

instance : Tolerates RefusedOperation.decoder RefusedOperation.shape := flattened_tolerates (by decide)

def Mempool.shape : Shape :=
  .record <| Layout.blank
    |>.field "applied" (.many Operation.shape)
    |>.field "refused" (.many (.keyed RefusedOperation.shape))
    |>.field "branch_refused" (.many (.keyed RefusedOperation.shape))
    |>.field "branch_delayed" (.many (.keyed RefusedOperation.shape))
    |>.field "unprocessed" (.many (.keyed Operation.shape))

instance : Tolerates Mempool.decoder Mempool.shape :=
  inferInstanceAs (Tolerates (record ..) (.record _))

namespace TestChain

abbrev Common.layout : Layout := Layout.blank |>.field "status" .plain

instance : Common.fields.Tolerates Common.layout :=
  inferInstanceAs (Fields.Tolerates (Fields.required ..) (.field ..))

abbrev NotRunning.layout : Layout := Layout.blank

instance : Tolerates NotRunning.decoder (.record (NotRunning.layout ++ Common.layout)) :=
  flattened_tolerates (by decide)

abbrev Forking.layout : Layout := Layout.blank |>.field "protocol" .plain |>.field "expiration" .plain

instance : Tolerates Forking.decoder (.record (Forking.layout ++ Common.layout)) :=
  flattened_tolerates (by decide)

abbrev Running.layout : Layout :=
  Layout.blank
    |>.field "chain_id" .plain
    |>.field "genesis" .plain
    |>.field "protocol" .plain
    |>.field "expiration" .plain

instance : Tolerates Running.decoder (.record (Running.layout ++ Common.layout)) :=
  flattened_tolerates (by decide)

theorem Common.told (members : List (String × Value)) (c : Common)
    (decoded : Common.decoder.ofValue (.object members) = .ok c) :
    members.lookup "status" = some (.string c.status) := by
  obtain ⟨⟨⟨⟩, status?⟩, fills, finished⟩ := record_fills decoded
  cases status? with
  | none => cases finished
  | some status =>
    cases finished
    exact Fields.fill_text_told (by decide) fills

abbrev rows : List (String × Layout) := [
  ("not_running", NotRunning.layout),
  ("forking", Forking.layout),
  ("running", Running.layout)]

def shape : Shape := .tagged "status" Common.layout rows

instance : Rows Common.layout family.members rows := inferInstanceAs (Rows _ (_ :: _) (_ :: _))

instance : family.Tolerates shape := Family.tolerates_of_rows rfl Common.told

instance : Tolerates decoder shape := inferInstanceAs (Tolerates family.decoder _)

end TestChain

def OperationLimit.shape : Shape := .record <| Layout.blank |>.field "max_size" .plain |>.field "max_op" .plain

instance : Tolerates OperationLimit.decoder OperationLimit.shape :=
  inferInstanceAs (Tolerates (record ..) (.record _))

def BlockLevel.shape : Shape :=
  .record <| Layout.blank
    |>.field "level" .plain
    |>.field "level_position" .plain
    |>.field "cycle" .plain
    |>.field "cycle_position" .plain
    |>.field "voting_period" .plain
    |>.field "voting_period_position" .plain
    |>.field "expected_commitment" .plain

instance : Tolerates BlockLevel.decoder BlockLevel.shape :=
  inferInstanceAs (Tolerates (record ..) (.record _))

def BlockMetadata.shape : Shape :=
  .record <| Layout.blank
    |>.field "protocol" .plain
    |>.field "next_protocol" .plain
    |>.field "test_chain_status" TestChain.shape
    |>.field "max_operations_ttl" .plain
    |>.field "max_operation_data_length" .plain
    |>.field "max_block_header_length" .plain
    |>.field "max_operation_list_length" (.many OperationLimit.shape)
    |>.field "baker" .plain
    |>.field "level" BlockLevel.shape
    |>.field "voting_period_kind" .plain
    |>.field "nonce_hash" .plain
    |>.field "consumed_gas" .plain
    |>.field "deactivated" .plain
    |>.field "balance_updates" (.many BalanceUpdate.shape)

instance : Tolerates BlockMetadata.decoder BlockMetadata.shape :=
  inferInstanceAs (Tolerates (record ..) (.record _))

def Block.shape : Shape :=
  .record <| Layout.blank
    |>.field "protocol" .plain
    |>.field "chain_id" .plain
    |>.field "hash" .plain
    |>.field "header" BlockHeader.shape
    |>.field "metadata" BlockMetadata.shape
    |>.field "operations" (.many (.many Operation.shape))

instance : Tolerates Block.decoder Block.shape :=
  inferInstanceAs (Tolerates (record ..) (.record _))

/-- Blocks, operations, refused operations and mempools are decoded to the same when their values gain
members that the records there do not name, in any number of places. The values are such as reading gives
them, with sorted members. -/
theorem new_fields_tolerated (v w : Value) (sorted : w.sorted = w) :
    (Block.shape.Grows v w → ∀ b, Block.decoder.ofValue v = .ok b → Block.decoder.ofValue w = .ok b) ∧
    (Operation.shape.Grows v w →
      ∀ o, Operation.decoder.ofValue v = .ok o → Operation.decoder.ofValue w = .ok o) ∧
    (RefusedOperation.shape.Grows v w →
      ∀ r, RefusedOperation.decoder.ofValue v = .ok r → RefusedOperation.decoder.ofValue w = .ok r) ∧
    (Mempool.shape.Grows v w →
      ∀ m, Mempool.decoder.ofValue v = .ok m → Mempool.decoder.ofValue w = .ok m) := by
  refine ⟨fun grows b => ?_, fun grows o => ?_, fun grows r => ?_, fun grows m => ?_⟩
  · exact Tolerates.grows inferInstance sorted grows
  · exact Tolerates.grows inferInstance sorted grows
  · exact Tolerates.grows inferInstance sorted grows
  · exact Tolerates.grows inferInstance sorted grows

/-- A refused operation behind its hash gains a member, and so does a content of a kind that is not
registered, under a name that another kind has. -/
theorem new_fields_tolerated_refused :
    let operation (level zone : List (String × Value)) : Value :=
      .object ([("branch", .string "B"),
        ("contents", .array [.object ([("kind", .string "mystery")] ++ level)])] ++ zone)
    let mempool (level zone : List (String × Value)) : Value :=
      .object [("refused", .array [.array [.string "o1", operation level zone]])]
    let before := mempool [] []
    let after := mempool [("level", .string "high")] [("zone", .object [("branch", .null)])]
    let m : Mempool := ⟨[], [⟨⟨"", "", "o1", "B", [.other ⟨"mystery"⟩], ""⟩, []⟩], [], [], []⟩
    after.sorted = after ∧ Mempool.shape.Grows before after ∧ Mempool.decoder.ofValue before = .ok m ∧
      Mempool.decoder.ofValue after = .ok m := by
  intro operation mempool before after m
  have sorted : after.sorted = after := rfl
  have decoded : Mempool.decoder.ofValue before = .ok m := rfl
  have behind {level level' zone zone' : List (String × Value)}
      (gains : RefusedOperation.shape.Gains (operation level zone) (operation level' zone')) :
      Mempool.shape.Gains (mempool level zone) (mempool level' zone') :=
    @Shape.Gains.member _ _ [] [] _ "refused" _ _ rfl rfl (@Shape.Gains.item _ [] [] _ _ (.behind gains))
  have level : Mempool.shape.Gains before (mempool [("level", .string "high")] []) := by
    apply behind
    have content : Content.shape.Gains (.object [("kind", .string "mystery")])
        (.object [("kind", .string "mystery"), ("level", .string "high")]) :=
      @Shape.Gains.new _ [("kind", .string "mystery")] [] _ "level" _ rfl rfl
    exact @Shape.Gains.member _ _ [("branch", .string "B")] [] _ "contents" _ _ rfl rfl
      (@Shape.Gains.item _ [] [] _ _ content)
  have zone : Mempool.shape.Gains (mempool [("level", .string "high")] []) after := by
    apply behind
    exact @Shape.Gains.new _ [("branch", .string "B"), ("contents", _)] [] _ "zone" _ rfl rfl
  have grows : Mempool.shape.Grows before after := .tail (.single level) zone
  exact ⟨sorted, grows, decoded, (new_fields_tolerated before after sorted).2.2.2 grows m decoded⟩

end TezosNode
