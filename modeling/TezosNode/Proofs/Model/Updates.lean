import TezosNode.Model.Metadata
import TezosNode.Proofs.Model.Errors
import TezosNode.Proofs.Model.Headers
import TezosNode.Proofs.Model.Variants

namespace TezosNode

open Decode Json Decoder Fields

namespace BalanceUpdate

theorem Common.keeps (c : Common) : Common.decoder.Keeps (.object c.members) c :=
  keeps_full "GenericBalanceUpdate" rfl (by decide) <| (Answers.make _ _)
    |>.required (by rfl) (keeps_text c.kind)
    |>.required (by rfl) (keeps_quotedInt64 c.change)

theorem Contract.keeps (u : Contract) : Contract.decoder.Keeps u.toValue u :=
  keeps_flattened_full "ContractBalanceUpdate" (c := u.common) rfl (by decide)
    ((Answers.make _ _)
      |>.required (by rfl) (keeps_text u.contract))
    ((Answers.make _ _)
      |>.required (by rfl) (keeps_text u.common.kind)
      |>.required (by rfl) (keeps_quotedInt64 u.common.change))

theorem Freezer.keeps (u : Freezer) : Freezer.decoder.Keeps u.toValue u :=
  keeps_flattened_full "FreezerBalanceUpdate" (c := u.common) rfl (by decide)
    ((Answers.make _ _)
      |>.required (by rfl) (keeps_text u.category)
      |>.required (by rfl) (keeps_text u.delegate)
      |>.required (by rfl) (keeps_int32 u.level))
    ((Answers.make _ _)
      |>.required (by rfl) (keeps_text u.common.kind)
      |>.required (by rfl) (keeps_quotedInt64 u.common.change))

theorem variant?_toValue {x : BalanceUpdate} (own : x.ownKind? = some x.kind) :
    variant? x.toValue.sorted x.kind = some (.ok x) := by
  cases x with
  | contract u =>
    rw [← Option.some.inj own]
    exact variant_keeps u.keeps
  | freezer u =>
    rw [← Option.some.inj own]
    exact variant_keeps u.keeps
  | other c => cases own

theorem family_returns {v : Value} {x : BalanceUpdate} (decoded : family.ofValue v = .ok x) :
    family.ofValue x.toValue.sorted = .ok x := by
  refine (family_governed v).returns (family_governed _) decoded (fun _ own => ?_) fun other => ?_
  · have found := variant?_toValue own
    exact ⟨found, (variant?_shares found).2⟩
  · cases x with
    | other c => exact ⟨rfl, c.keeps .sorted .value trivial⟩
    | _ => cases other

theorem faithful : decoder.Faithful toValue := Family.faithful fun _ _ => family_returns

theorem faithful_list : family.list.Faithful listToValue := Family.faithful_list fun _ _ => family_returns

theorem keeps_nil : family.list.Keeps (listToValue []) [] := family.keeps_nil toValue

end BalanceUpdate

namespace UpdatesMetadata

theorem keeps {m : UpdatesMetadata}
    (updates : BalanceUpdate.family.list.Keeps (BalanceUpdate.listToValue m.balanceUpdates)
      m.balanceUpdates) :
    decoder.Keeps m.toValue m :=
  keeps_full "BalanceUpdatesMetadata" rfl (by decide) <| (Answers.make _ _)
    |>.orElse (by rfl) updates

theorem keeps_empty : decoder.Keeps (toValue ⟨[]⟩) ⟨[]⟩ := keeps BalanceUpdate.keeps_nil

theorem faithful : decoder.Faithful toValue :=
  faithful_record (.orElse BalanceUpdate.faithful_list BalanceUpdate.keeps_nil
    (.make fun _ updates => keeps updates))

end UpdatesMetadata

namespace EndorsementMetadata

theorem keeps {m : EndorsementMetadata}
    (updates : BalanceUpdate.family.list.Keeps (BalanceUpdate.listToValue m.balanceUpdates)
      m.balanceUpdates) :
    decoder.Keeps m.toValue m :=
  keeps_full "EndorsementMetadata" rfl (by decide) <| (Answers.make _ _)
    |>.orElse (by rfl) updates
    |>.orElse (by rfl) (keeps_text m.delegate)
    |>.orElse (by rfl) (keeps_list fun slot _ => keeps_uint16 slot)

theorem keeps_empty : decoder.Keeps (toValue ⟨[], "", []⟩) ⟨[], "", []⟩ := keeps BalanceUpdate.keeps_nil

theorem faithful : decoder.Faithful toValue :=
  faithful_record (.free (.free (.orElse BalanceUpdate.faithful_list BalanceUpdate.keeps_nil
    (.make fun _ updates _ _ => keeps updates))))

end EndorsementMetadata

namespace ManagerResult

theorem listMember_eq {α : Type} (key : String) (write : List α → Value) (items : List α) :
    listMember key write items =
      Sheet.members [(key, if items.isEmpty then none else some (write items))] := by
  cases items <;> rfl

def sheet (r : ManagerResult) : Sheet :=
  Sheet.full [("status", .string r.status)] ++
    [("storage", r.storage.map id)] ++
    [("balance_updates", if r.balanceUpdates.isEmpty then none
      else some (BalanceUpdate.listToValue r.balanceUpdates))] ++
    [("originated_contracts", if r.originatedContracts.isEmpty then none
      else some (textsToValue r.originatedContracts))] ++
    [("consumed_gas", r.consumedGas.map Amount.toValue)] ++
    [("storage_size", r.storageSize.map Amount.toValue)] ++
    [("paid_storage_size_diff", r.paidStorageSizeDiff.map Amount.toValue)] ++
    [("errors", if r.errors.isEmpty then none else some (ErrorRecord.listToValue r.errors))]

theorem toValue_eq (r : ManagerResult) : r.toValue = .object r.sheet.members := by
  simp only [toValue, sheet, Sheet.members_append, Sheet.members_full, optionalMember_eq, listMember_eq]

theorem keeps {r : ManagerResult}
    (storage : ∀ v, r.storage = some v → Decoder.any.Keeps (id v) v ∧ id v ≠ .null)
    (updates : BalanceUpdate.family.list.Keeps (BalanceUpdate.listToValue r.balanceUpdates)
      r.balanceUpdates)
    (errors : ErrorRecord.listDecoder.Keeps (ErrorRecord.listToValue r.errors) r.errors) :
    decoder.Keeps r.toValue r :=
  keeps_record "ManagerOperationResult" r.toValue_eq rfl (by decide) <| (Answers.make _ _)
    |>.orElse (by rfl) (keeps_text r.status)
    |>.optional (by rfl) storage
    |>.orNothing (by rfl) updates
    |>.orNothing (by rfl) (keeps_texts r.originatedContracts)
    |>.optional (by rfl) (fun a _ => ⟨a.keeps, a.present⟩)
    |>.optional (by rfl) (fun a _ => ⟨a.keeps, a.present⟩)
    |>.optional (by rfl) (fun a _ => ⟨a.keeps, a.present⟩)
    |>.orNothing (by rfl) errors

theorem keeps_blank : decoder.Keeps blank.toValue blank :=
  keeps nofun BalanceUpdate.keeps_nil ErrorRecord.keeps_nil

theorem faithful : decoder.Faithful toValue := by
  refine faithful_record (.orElse ErrorRecord.faithful_list ErrorRecord.keeps_nil ?_)
  refine .free (.free (.free (.free ?_)))
  refine .orElse BalanceUpdate.faithful_list BalanceUpdate.keeps_nil ?_
  refine .optional faithful_any (fun _ reaches => reaches.present) ?_
  exact .free (.make fun _ _ storage _ updates _ _ _ _ _ errors => keeps storage updates errors)

end ManagerResult

namespace ManagerMetadata

theorem keeps {m : ManagerMetadata}
    (updates : BalanceUpdate.family.list.Keeps (BalanceUpdate.listToValue m.balanceUpdates)
      m.balanceUpdates)
    (result : ManagerResult.decoder.Keeps m.operationResult.toValue m.operationResult) :
    decoder.Keeps m.toValue m :=
  keeps_full "ManagerOperationMetadata" rfl (by decide) <| (Answers.make _ _)
    |>.orElse (by rfl) updates
    |>.orElse (by rfl) result

theorem keeps_blank : decoder.Keeps blank.toValue blank :=
  keeps BalanceUpdate.keeps_nil ManagerResult.keeps_blank

theorem faithful : decoder.Faithful toValue :=
  faithful_record (.orElse ManagerResult.faithful ManagerResult.keeps_blank
    (.orElse BalanceUpdate.faithful_list BalanceUpdate.keeps_nil
      (.make fun _ updates _ result => keeps updates result)))

end ManagerMetadata

end TezosNode
