import TezosNode.Model.Block
import TezosNode.Proofs.Model.Contents

namespace TezosNode

open Decode Json Decoder Fields

namespace Operation

theorem answers {o : Operation} {sheet : Sheet}
    (contents : Content.family.list.Keeps (.array (o.contents.map Content.toValue)) o.contents)
    (entries : ∀ member ∈ o.members, sheet.value? member.1 = some member.2) :
    fields.Answers sheet o := by
  simp only [members, List.forall_mem_cons] at entries
  obtain ⟨protocol, chainId, hash, branch, list, signature, _⟩ := entries
  exact (Answers.make _ _)
    |>.orElse protocol (keeps_text o.protocol)
    |>.orElse chainId (keeps_text o.chainId)
    |>.orElse hash (keeps_text o.hash)
    |>.orElse branch (keeps_text o.branch)
    |>.orElse list contents
    |>.orElse signature (keeps_text o.signature)

theorem fields_holds {P : Operation → Prop}
    (all : ∀ o : Operation,
      Content.family.list.Keeps (.array (o.contents.map Content.toValue)) o.contents → P o) :
    fields.Holds P := by
  refine .free (.orElse Content.faithful_list (Content.family.keeps_nil Content.toValue) ?_)
  refine .free (.free (.free (.free (.make ?_))))
  intro _ _ _ _ _ contents _
  exact all _ contents

theorem entries_full (o : Operation) (others : List (String × Value)) :
    ∀ member ∈ o.members, (Sheet.full (o.members ++ others)).value? member.1 = some member.2 := by
  simp only [members, List.forall_mem_cons]
  exact ⟨rfl, rfl, rfl, rfl, rfl, rfl, fun _ absent => absurd absent List.not_mem_nil⟩

theorem keeps {o : Operation}
    (contents : Content.family.list.Keeps (.array (o.contents.map Content.toValue)) o.contents) :
    decoder.Keeps o.toValue o :=
  keeps_full "Operation" rfl (by decide) (answers contents (o.entries_full []))

theorem faithful : decoder.Faithful toValue := faithful_record (fields_holds fun _ => keeps)

end Operation

namespace RefusedOperation

instance : Operation.fields.Lawful := inferInstanceAs (Fields.Lawful (Fields.orElse ..))

theorem keeps {r : RefusedOperation}
    (errors : ErrorRecord.listDecoder.Keeps (ErrorRecord.listToValue r.errors) r.errors)
    (contents : Content.family.list.Keeps (.array (r.operation.contents.map Content.toValue))
      r.operation.contents) : decoder.Keeps r.toValue r :=
  keeps_flattened_full "OperationWithError" (c := r.operation) rfl (by decide)
    ((Answers.make _ _)
      |>.orElse (by rfl) errors)
    (Operation.answers contents (r.operation.entries_full _))

theorem faithful : decoder.Faithful toValue := by
  refine faithful_flattened ?_
  refine .orElse ErrorRecord.faithful_list ErrorRecord.keeps_nil (.make fun _ errors => ?_)
  exact Operation.fields_holds fun _ contents => keeps errors contents

end RefusedOperation

namespace TestChain

theorem Common.keeps (c : Common) : Common.decoder.Keeps (.object c.members) c :=
  keeps_full "GenericTestChainStatus" rfl (by decide) <| (Answers.make _ _)
    |>.required (by rfl) (keeps_text c.status)

theorem Common.answers {sheet : Sheet} (c : Common)
    (status : sheet.value? "status" = some (.string c.status)) : Common.fields.Answers sheet c :=
  (Answers.make _ _)
    |>.required status (keeps_text c.status)

theorem Common.fields_holds {P : Common → Prop} (all : ∀ c, P c) : Common.fields.Holds P :=
  .free (.make fun _ => all _)

theorem NotRunning.keeps (s : NotRunning) : decoder.Keeps (.object s.common.members) s :=
  keeps_flattened_full "NotRunningTestChainStatus" (c := s.common) rfl (by decide) (Answers.make _ _)
    (s.common.answers rfl)

theorem NotRunning.faithful : decoder.Faithful fun s => .object s.common.members := fun s _ => s.keeps

namespace Forking

theorem keeps {s : Forking} (stamp : Decoder.instant.Keeps (.string s.expiration.text) s.expiration) :
    decoder.Keeps s.toValue s :=
  keeps_flattened_full "ForkingTestChainStatus" (c := s.common) rfl (by decide)
    ((Answers.make _ _)
      |>.required (by rfl) (keeps_text s.protocol)
      |>.required (by rfl) stamp)
    (s.common.answers rfl)

theorem faithful : decoder.Faithful toValue := by
  refine faithful_flattened (.required faithful_instant (.free (.make ?_)))
  intro _ _ stamp
  exact Common.fields_holds fun _ => keeps stamp

end Forking

namespace Running

theorem keeps {s : Running} (stamp : Decoder.instant.Keeps (.string s.expiration.text) s.expiration) :
    decoder.Keeps s.toValue s :=
  keeps_flattened_full "RunningTestChainStatus" (c := s.common) rfl (by decide)
    ((Answers.make _ _)
      |>.required (by rfl) (keeps_text s.chainId)
      |>.required (by rfl) (keeps_text s.genesis)
      |>.required (by rfl) (keeps_text s.protocol)
      |>.required (by rfl) stamp)
    (s.common.answers rfl)

theorem faithful : decoder.Faithful toValue := by
  refine faithful_flattened (.required faithful_instant (.free (.free (.free (.make ?_)))))
  intro _ _ _ _ stamp
  exact Common.fields_holds fun _ => keeps stamp

end Running

theorem variant?_toValue {v : Value} {x : TestChain} (own : x.ownStatus? = some x.status)
    (decoded : variant? v x.status = some (.ok x)) :
    variant? x.toValue.sorted x.status = some (.ok x) := by
  cases x with
  | notRunning s =>
    rw [← Option.some.inj own] at decoded ⊢
    exact variant_returns NotRunning.faithful notRunning (fun _ _ => notRunning.inj) decoded
  | forking s =>
    rw [← Option.some.inj own] at decoded ⊢
    exact variant_returns Forking.faithful forking (fun _ _ => forking.inj) decoded
  | running s =>
    rw [← Option.some.inj own] at decoded ⊢
    exact variant_returns Running.faithful running (fun _ _ => running.inj) decoded
  | other c => cases own

theorem family_returns {v : Value} {x : TestChain} (decoded : family.ofValue v = .ok x) :
    family.ofValue x.toValue.sorted = .ok x := by
  refine (family_governed v).returns (family_governed _) decoded (fun row own => ?_) fun unknown => ?_
  · have found := variant?_toValue own row
    exact ⟨found, (variant?_shares found).2⟩
  · cases x with
    | other c => exact ⟨rfl, c.keeps .sorted .value trivial⟩
    | _ => cases unknown

theorem faithful : decoder.Faithful toValue := Family.faithful fun _ _ => family_returns

theorem present (x : TestChain) : x.toValue ≠ .null := by
  cases x <;> nofun

end TestChain

theorem OperationLimit.keeps (l : OperationLimit) : decoder.Keeps l.toValue l :=
  keeps_full "MaxOperationListLength" rfl (by decide) <| (Answers.make _ _)
    |>.orElse (by rfl) (keeps_uint32 l.maxSize)
    |>.orElse (by rfl) (keeps_uint32 l.maxOp)

theorem BlockLevel.keeps (l : BlockLevel) : decoder.Keeps l.toValue l :=
  keeps_full "BlockHeaderMetadataLevel" rfl (by decide) <| (Answers.make _ _)
    |>.orElse (by rfl) (keeps_int32 l.level)
    |>.orElse (by rfl) (keeps_int32 l.levelPosition)
    |>.orElse (by rfl) (keeps_int32 l.cycle)
    |>.orElse (by rfl) (keeps_int32 l.cyclePosition)
    |>.orElse (by rfl) (keeps_int32 l.votingPeriod)
    |>.orElse (by rfl) (keeps_int32 l.votingPeriodPosition)
    |>.orElse (by rfl) (keeps_bool l.expectedCommitment)

namespace BlockMetadata

def sheet (m : BlockMetadata) : Sheet :=
  Sheet.full [
    ("protocol", .string m.protocol),
    ("next_protocol", .string m.nextProtocol)] ++
    [("test_chain_status", m.testChain.map TestChain.toValue)] ++
    Sheet.full [
      ("max_operations_ttl", .integer m.maxOperationsTtl.toInt),
      ("max_operation_data_length", .integer m.maxOperationDataLength.toInt),
      ("max_block_header_length", .integer m.maxBlockHeaderLength.toInt),
      ("max_operation_list_length", .array (m.maxOperationListLength.map OperationLimit.toValue)),
      ("baker", .string m.baker),
      ("level", m.level.toValue),
      ("voting_period_kind", .string m.votingPeriodKind)] ++
    [("nonce_hash", m.nonceHash.map .string)] ++
    [("consumed_gas", m.consumedGas.map Amount.toValue)] ++
    Sheet.full [
      ("deactivated", textsToValue m.deactivated),
      ("balance_updates", BalanceUpdate.listToValue m.balanceUpdates)]

theorem toValue_eq (m : BlockMetadata) : m.toValue = .object m.sheet.members := by
  simp only [toValue, sheet, Sheet.members_append, Sheet.members_full, optionalMember_eq]

theorem keeps {m : BlockMetadata}
    (chain : ∀ x, m.testChain = some x → TestChain.decoder.Keeps x.toValue x ∧ x.toValue ≠ .null)
    (updates : BalanceUpdate.family.list.Keeps (BalanceUpdate.listToValue m.balanceUpdates)
      m.balanceUpdates) :
    decoder.Keeps m.toValue m :=
  keeps_record "BlockHeaderMetadata" m.toValue_eq rfl (by decide) <| (Answers.make _ _)
    |>.orElse (by rfl) (keeps_text m.protocol)
    |>.orElse (by rfl) (keeps_text m.nextProtocol)
    |>.optional (by rfl) chain
    |>.orElse (by rfl) (keeps_int32 m.maxOperationsTtl)
    |>.orElse (by rfl) (keeps_int32 m.maxOperationDataLength)
    |>.orElse (by rfl) (keeps_int32 m.maxBlockHeaderLength)
    |>.orElse (by rfl) (keeps_list fun limit _ => limit.keeps)
    |>.orElse (by rfl) (keeps_text m.baker)
    |>.orElse (by rfl) m.level.keeps
    |>.orElse (by rfl) (keeps_text m.votingPeriodKind)
    |>.optional (by rfl) (fun s _ => ⟨keeps_text s, nofun⟩)
    |>.optional (by rfl) (fun a _ => ⟨a.keeps, a.present⟩)
    |>.orElse (by rfl) (keeps_texts m.deactivated)
    |>.orElse (by rfl) updates

theorem keeps_blank : decoder.Keeps blank.toValue blank := keeps nofun BalanceUpdate.keeps_nil

theorem faithful : decoder.Faithful toValue := by
  refine faithful_record (.orElse BalanceUpdate.faithful_list BalanceUpdate.keeps_nil ?_)
  refine .free (.free (.free (.free (.free (.free (.free (.free (.free (.free ?_)))))))))
  refine .optional TestChain.faithful (fun x _ => x.present) (.free (.free (.make ?_)))
  intro _ _ _ chain _ _ _ _ _ _ _ _ _ _ _ updates
  exact keeps chain updates

end BlockMetadata

namespace Block

def passesToValue (passes : List (List Operation)) : Value :=
  .array (passes.map fun pass => .array (pass.map Operation.toValue))

theorem keeps_passes {passes : List (List Operation)}
    (all : ∀ pass ∈ passes, ∀ o ∈ pass, Operation.decoder.Keeps o.toValue o) :
    Operation.decoder.list.list.Keeps (passesToValue passes) passes :=
  keeps_list fun pass member => keeps_list (all pass member)

theorem faithful_passes : Operation.decoder.list.list.Faithful passesToValue := by
  intro passes reaches
  refine keeps_passes fun pass member o present => Operation.faithful o ?_
  exact (reaches.list pass member).list o present

theorem keeps {b : Block} (header : BlockHeader.decoder.Keeps b.header.toValue b.header)
    (metadata : BlockMetadata.decoder.Keeps b.metadata.toValue b.metadata)
    (operations : Operation.decoder.list.list.Keeps (passesToValue b.operations) b.operations) :
    decoder.Keeps b.toValue b :=
  keeps_full "Block" rfl (by decide) <| (Answers.make _ _)
    |>.orElse (by rfl) (keeps_text b.protocol)
    |>.orElse (by rfl) (keeps_text b.chainId)
    |>.orElse (by rfl) (keeps_text b.hash)
    |>.orElse (by rfl) header
    |>.orElse (by rfl) metadata
    |>.orElse (by rfl) operations

theorem faithful : decoder.Faithful toValue := by
  refine faithful_record (.orElse faithful_passes (keeps_passes nofun) ?_)
  refine .orElse BlockMetadata.faithful BlockMetadata.keeps_blank ?_
  refine .orElse BlockHeader.faithful BlockHeader.keeps_blank (.free (.free (.free (.make ?_))))
  intro _ _ _ _ header _ metadata _ operations
  exact keeps header metadata operations

end Block

namespace RefusedBlock

theorem keeps {b : RefusedBlock}
    (errors : ErrorRecord.listDecoder.Keeps (ErrorRecord.listToValue b.errors) b.errors) :
    decoder.Keeps b.toValue b :=
  keeps_full "InvalidBlock" rfl (by decide) <| (Answers.make _ _)
    |>.orElse (by rfl) (keeps_text b.block)
    |>.orElse (by rfl) (keeps_int32 b.level)
    |>.orElse (by rfl) errors

theorem faithful : decoder.Faithful toValue :=
  faithful_record (.orElse ErrorRecord.faithful_list ErrorRecord.keeps_nil
    (.free (.free (.make fun _ _ _ errors => keeps errors))))

end RefusedBlock

end TezosNode
