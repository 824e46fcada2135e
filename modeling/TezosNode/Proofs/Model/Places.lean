import TezosNode.Model.Block
import TezosNode.Proofs.Decode.Blanks
import TezosNode.Proofs.Decode.Tracing
import TezosNode.Proofs.Model.Shown
import TezosNode.Proofs.Model.Sources

namespace TezosNode

open Decode Json Decoder

instance : Plain int32 := inferInstanceAs (Plain (Decoder.map ..))

instance : Plain uint8 := inferInstanceAs (Plain (Decoder.map ..))

instance : Plain uint32 := inferInstanceAs (Plain (Decoder.map ..))

instance : Plain uint16 := inferInstanceAs (Plain (Decoder.map ..))

instance : Plain instant := by
  refine plain_refine fun s fault refused => ?_
  obtain ⟨_, _, rfl⟩ := mapError_error refused
  trivial

instance : Plain hex := by
  refine plain_refine fun s fault refused => ?_
  obtain ⟨_, _, rfl⟩ := mapError_error refused
  trivial

instance : Plain quotedInt64 := by
  refine plain_refine fun s fault refused => ?_
  obtain ⟨_, _, rfl⟩ := mapError_error (map_error refused)
  trivial

instance : Plain Amount.decoder := by
  refine plain_refine fun s fault refused => ?_
  obtain ⟨_, _, rfl⟩ := mapError_error refused
  trivial

instance : Plain ErrorRecord.listDecoder := by
  constructor
  intro source v fault boundless refused
  cases ErrorRecord.listDecoder_error (boundless.allows _) refused
  trivial

namespace BalanceUpdate

instance : Common.fields.Traced := inferInstanceAs (Fields.Traced (Fields.required ..))

instance : Traced Contract.decoder := traced_flattened (by decide)

instance : Traced Freezer.decoder := traced_flattened (by decide)

instance : Traced family.decoder := by
  refine Family.traced (inferInstanceAs (Traced (record ..))) fun row member => ?_
  simp only [family, List.mem_cons, List.not_mem_nil, or_false] at member
  rcases member with rfl | rfl
  · exact inferInstanceAs (Traced (Contract.decoder.map _))
  · exact inferInstanceAs (Traced (Freezer.decoder.map _))

end BalanceUpdate

instance : Traced UpdatesMetadata.decoder := inferInstanceAs (Traced (record ..))

instance : Traced EndorsementMetadata.decoder := inferInstanceAs (Traced (record ..))

instance : Traced ManagerResult.decoder := inferInstanceAs (Traced (record ..))

instance : Traced ManagerMetadata.decoder := inferInstanceAs (Traced (record ..))

instance : Traced BlockHeader.decoder := inferInstanceAs (Traced (record ..))

namespace Content

instance : Common.fields.Traced := inferInstanceAs (Fields.Traced (Fields.required ..))

instance {α : Type} (make : Manager → α) : (Manager.fields make).Traced :=
  inferInstanceAs (Fields.Traced (Fields.optional ..))

instance : Traced InlinedContents.decoder := inferInstanceAs (Traced (record ..))

instance : Traced InlinedEndorsement.decoder := inferInstanceAs (Traced (record ..))

instance : Traced Script.decoder := inferInstanceAs (Traced (record ..))

instance : Traced Endorsement.decoder := traced_flattened (by decide)

instance : Traced Transaction.decoder := traced_flattened (by decide)

instance : Traced Ballot.decoder := traced_flattened (by decide)

instance : Traced Proposals.decoder := traced_flattened (by decide)

instance : Traced SeedNonceRevelation.decoder := traced_flattened (by decide)

instance : Traced DoubleEndorsementEvidence.decoder := traced_flattened (by decide)

instance : Traced DoubleBakingEvidence.decoder := traced_flattened (by decide)

instance : Traced ActivateAccount.decoder := traced_flattened (by decide)

instance : Traced Reveal.decoder := traced_flattened (by decide)

instance : Traced Origination.decoder := traced_flattened (by decide)

instance : Traced Delegation.decoder := traced_flattened (by decide)

instance : Traced family.decoder := by
  refine Family.traced (inferInstanceAs (Traced (record ..))) fun row member => ?_
  simp only [family, List.mem_cons, List.not_mem_nil, or_false] at member
  rcases member with rfl | rfl | rfl | rfl | rfl | rfl | rfl | rfl | rfl | rfl | rfl
  all_goals infer_instance

end Content

instance : Operation.fields.Traced := inferInstanceAs (Fields.Traced (Fields.orElse ..))

instance : Traced Operation.decoder := inferInstanceAs (Traced (record ..))

instance : Traced RefusedOperation.decoder := traced_flattened (by decide)

instance : Traced Mempool.decoder := inferInstanceAs (Traced (record ..))

theorem Operation.contents_spare {source : Source} {v : Value} (blank : ReadEmpty Content.family.list v) (boundless : source.Boundless) :
    Nonempty (Operation.fields.Spare source "contents" v) :=
  ⟨.earlier (.last _ _ (blank source boundless)) (by decide)⟩

theorem Operation.contents_omittable : Omittable Operation.decoder "contents" Operation.contents :=
  record_omittable Content.family.list_readEmpty
    (fun _ blank => Operation.contents_spare blank Source.value_boundless) Operation.decoder_shows_contents

theorem RefusedOperation.contents_omittable :
    Omittable RefusedOperation.decoder "contents" (·.operation.contents) :=
  flattened_omittable (by decide) (by decide) (.orElse (.make fun _ _ => rfl)) Content.family.list_readEmpty
    (fun _ blank => Operation.contents_spare blank Source.buffered_boundless) Operation.fields_tells_contents

theorem UpdatesMetadata.updates_omittable :
    Omittable UpdatesMetadata.decoder "balance_updates" UpdatesMetadata.balanceUpdates :=
  record_omittable BalanceUpdate.family.list_readEmpty
    (fun _ blank => ⟨.last _ _ (blank _ Source.value_boundless)⟩)
    (record_shows (.last (by decide) (.make fun _ => rfl)))

theorem EndorsementMetadata.updates_omittable :
    Omittable EndorsementMetadata.decoder "balance_updates" EndorsementMetadata.balanceUpdates :=
  record_omittable BalanceUpdate.family.list_readEmpty
    (fun _ blank => ⟨.earlier (.earlier (.last _ _ (blank _ Source.value_boundless)) (by decide)) (by decide)⟩)
    (record_shows (.later (by decide) (.later (by decide) (.last (by decide) (.make fun _ _ _ => rfl)))))

theorem ManagerMetadata.updates_omittable :
    Omittable ManagerMetadata.decoder "balance_updates" ManagerMetadata.balanceUpdates :=
  record_omittable BalanceUpdate.family.list_readEmpty
    (fun _ blank => ⟨.earlier (.last _ _ (blank _ Source.value_boundless)) (by decide)⟩)
    (record_shows (.later (by decide) (.last (by decide) (.make fun _ _ => rfl))))

theorem ManagerResult.updates_omittable :
    Omittable ManagerResult.decoder "balance_updates" ManagerResult.balanceUpdates :=
  record_omittable BalanceUpdate.family.list_readEmpty
    (fun _ blank => ⟨.earlier (.earlier (.earlier (.earlier (.earlier
      (.last _ _ (blank _ Source.value_boundless)) (by decide)) (by decide)) (by decide)) (by decide))
      (by decide)⟩)
    (record_shows (.later (by decide) (.later (by decide) (.later (by decide) (.later (by decide)
      (.later (by decide) (.last (by decide) (.free (.free (.make fun _ _ _ _ _ _ _ _ => rfl))))))))))

theorem BlockMetadata.updates_omittable :
    Omittable BlockMetadata.decoder "balance_updates" BlockMetadata.balanceUpdates :=
  record_omittable BalanceUpdate.family.list_readEmpty
    (fun _ blank => ⟨.last _ _ (blank _ Source.value_boundless)⟩)
    (record_shows (.last (by decide) (.free (.free (.free (.free (.free (.free (.free (.free (.free (.free
      (.free (.free (.free (.make fun _ _ _ _ _ _ _ _ _ _ _ _ _ _ => rfl))))))))))))))))

theorem Mempool.refused_omittable : Omittable Mempool.decoder "refused" Mempool.refused :=
  record_omittable (keyedList_readEmpty _ _)
    (fun _ blank => ⟨.earlier (.earlier (.earlier (.last _ _ (blank _ Source.value_boundless)) (by decide))
      (by decide)) (by decide)⟩) Mempool.decoder_shows_refused

theorem Mempool.branchRefused_omittable : Omittable Mempool.decoder "branch_refused" Mempool.branchRefused :=
  record_omittable (keyedList_readEmpty _ _)
    (fun _ blank => ⟨.earlier (.earlier (.last _ _ (blank _ Source.value_boundless)) (by decide)) (by decide)⟩)
    Mempool.decoder_shows_branchRefused

theorem Mempool.branchDelayed_omittable : Omittable Mempool.decoder "branch_delayed" Mempool.branchDelayed :=
  record_omittable (keyedList_readEmpty _ _)
    (fun _ blank => ⟨.earlier (.last _ _ (blank _ Source.value_boundless)) (by decide)⟩)
    Mempool.decoder_shows_branchDelayed

theorem Mempool.unprocessed_omittable : Omittable Mempool.decoder "unprocessed" Mempool.unprocessed :=
  record_omittable (keyedList_readEmpty _ _) (fun _ blank => ⟨.last _ _ (blank _ Source.value_boundless)⟩)
    Mempool.decoder_shows_unprocessed

namespace TestChain

instance : Common.fields.Traced := inferInstanceAs (Fields.Traced (Fields.required ..))

instance : Traced NotRunning.decoder := traced_flattened (by decide)

instance : Traced Forking.decoder := traced_flattened (by decide)

instance : Traced Running.decoder := traced_flattened (by decide)

instance : Traced family.decoder := by
  refine Family.traced (inferInstanceAs (Traced (record ..))) fun row member => ?_
  simp only [family, List.mem_cons, List.not_mem_nil, or_false] at member
  rcases member with rfl | rfl | rfl
  all_goals infer_instance

end TestChain

instance : Traced TestChain.decoder := inferInstanceAs (Traced TestChain.family.decoder)

instance : Traced OperationLimit.decoder := inferInstanceAs (Traced (record ..))

instance : Traced BlockLevel.decoder := inferInstanceAs (Traced (record ..))

instance : Traced BlockMetadata.decoder := inferInstanceAs (Traced (record ..))

instance : Traced Block.decoder := inferInstanceAs (Traced (record ..))

/-- The lists that may be left out, in every record that has one. -/
structure ListsOmittable : Prop where
  contents : Omittable Operation.decoder "contents" Operation.contents
  refusedContents : Omittable RefusedOperation.decoder "contents" (·.operation.contents)
  updates : Omittable UpdatesMetadata.decoder "balance_updates" UpdatesMetadata.balanceUpdates
  endorsementUpdates : Omittable EndorsementMetadata.decoder "balance_updates" EndorsementMetadata.balanceUpdates
  managerUpdates : Omittable ManagerMetadata.decoder "balance_updates" ManagerMetadata.balanceUpdates
  resultUpdates : Omittable ManagerResult.decoder "balance_updates" ManagerResult.balanceUpdates
  blockUpdates : Omittable BlockMetadata.decoder "balance_updates" BlockMetadata.balanceUpdates
  refused : Omittable Mempool.decoder "refused" Mempool.refused
  branchRefused : Omittable Mempool.decoder "branch_refused" Mempool.branchRefused
  branchDelayed : Omittable Mempool.decoder "branch_delayed" Mempool.branchDelayed
  unprocessed : Omittable Mempool.decoder "unprocessed" Mempool.unprocessed

theorem lists_omittable : ListsOmittable where
  contents := Operation.contents_omittable
  refusedContents := RefusedOperation.contents_omittable
  updates := UpdatesMetadata.updates_omittable
  endorsementUpdates := EndorsementMetadata.updates_omittable
  managerUpdates := ManagerMetadata.updates_omittable
  resultUpdates := ManagerResult.updates_omittable
  blockUpdates := BlockMetadata.updates_omittable
  refused := Mempool.refused_omittable
  branchRefused := Mempool.branchRefused_omittable
  branchDelayed := Mempool.branchDelayed_omittable
  unprocessed := Mempool.unprocessed_omittable

/-- Lists of members of a family, and lists of records behind their keys, are decoded whole or the first
element that is refused is named; null and a list that is left out are empty. In lists inside of lists the
names lead, one after the other, to the first part that is refused. -/
theorem lists_whole_or_blamed :
    (∀ {γ α : Type} (family : Family γ α),
      Wholly (fun _ => False) family.listOfValue family.ofValue ∧
        Wholly (· = .null) family.list.ofValue family.decoder.ofValue) ∧
    (∀ {α : Type} (setKey : String → α → α) (record : Decoder α),
      Wholly (· = .null) (keyedList setKey record).ofValue (keyed setKey record).ofValue) ∧
    ListsOmittable ∧
    (∀ index m, (Fault.element index m).message = "element " ++ Nat.repr index ++ ": " ++ m.message) ∧
    (∀ (path : List Place) (m : Fault), (m.under path).message = (path.map Place.label).foldr (· ++ ·) m.message) ∧
    Located (keyedList Operation.setHash Operation.decoder) ∧
    Located (keyedList RefusedOperation.setHash RefusedOperation.decoder) ∧
    Located Mempool.decoder ∧ Located Block.decoder := by
  refine ⟨fun family => ⟨family.wholly_listOfValue, family.wholly_list⟩, wholly_keyedList, lists_omittable,
    fun _ _ => rfl, fun path m => m.message_under path, ?_, ?_, ?_, ?_⟩
  all_goals apply located

example : (keyedList Operation.setHash Operation.decoder).ofValue (.array [
    .array [.string "first", .object []],
    .array [.string "second", .object [("contents", .array [.object [
      ("kind", .string "endorsement"), ("level", .integer 1), ("metadata", .object [
        ("balance_updates", .array [
          .object [("change", .string "1"), ("kind", .string "burned")],
          .object [("kind", .string "burned")]])])]])]]]) =
    .error (Fault.under (.missingField "change") [.element 1, .position 1, .element 0, .element 1]) := by
  rfl

end TezosNode
