import TezosNode.Proofs.Model.Updates

namespace TezosNode.Content

open Decode Json Decoder Fields

theorem Common.keeps (c : Common) : Common.decoder.Keeps (.object c.members) c :=
  keeps_full "GenericOperationElem" rfl (by decide) <| (Answers.make _ _)
    |>.required (by rfl) (keeps_text c.kind)

theorem Common.answers {sheet : Sheet} (c : Common) (kind : sheet.value? "kind" = some (.string c.kind)) :
    Common.fields.Answers sheet c := (Answers.make _ _)
  |>.required kind (keeps_text c.kind)

theorem Common.fields_holds {P : Common → Prop} (all : ∀ c, P c) : Common.fields.Holds P :=
  .free (.make fun _ => all _)

namespace Manager

variable {α : Type} {make : Manager → α}

theorem optionalToValue_eq {β : Type} (write : β → Value) (b? : Option β) :
    optionalToValue write b? = (b?.map write).getD .null := by
  cases b? <;> rfl

theorem fields_answers {sheet : Sheet} (m : Manager)
    (source : sheet.value? "source" = some (.string m.source))
    (fee : sheet.value? "fee" = some (optionalToValue Amount.toValue m.fee))
    (counter : sheet.value? "counter" = some (optionalToValue Amount.toValue m.counter))
    (gas : sheet.value? "gas_limit" = some (optionalToValue Amount.toValue m.gasLimit))
    (storage : sheet.value? "storage_limit" = some (optionalToValue Amount.toValue m.storageLimit)) :
    (fields make).Answers sheet (make m) := by
  rw [optionalToValue_eq] at fee counter gas storage
  exact (Answers.make _ _)
    |>.required source (keeps_text m.source)
    |>.orNull fee (fun a _ => ⟨a.keeps, a.present⟩)
    |>.orNull counter (fun a _ => ⟨a.keeps, a.present⟩)
    |>.orNull gas (fun a _ => ⟨a.keeps, a.present⟩)
    |>.orNull storage (fun a _ => ⟨a.keeps, a.present⟩)

theorem fields_holds {P : α → Prop} (all : ∀ m, P (make m)) : (fields make).Holds P :=
  .free (.free (.free (.free (.free (.make fun _ _ _ _ _ => all _)))))

end Manager

namespace Endorsement

theorem keeps {c : Endorsement}
    (metadata : EndorsementMetadata.decoder.Keeps c.metadata.toValue c.metadata) :
    decoder.Keeps c.toValue c :=
  keeps_flattened_full "EndorsementOperationElem" (c := c.common) rfl (by decide)
    ((Answers.make _ _)
      |>.required (by rfl) (keeps_int32 c.level)
      |>.orElse (by rfl) metadata)
    (c.common.answers rfl)

theorem faithful : decoder.Faithful toValue := by
  refine faithful_flattened ?_
  refine .orElse EndorsementMetadata.faithful EndorsementMetadata.keeps_empty ?_
  exact .free (.make fun _ _ metadata => Common.fields_holds fun _ => keeps metadata)

end Endorsement

namespace Transaction

def sheet (c : Transaction) : Sheet :=
  Sheet.full (c.common.members ++ c.manager.members ++ [
    ("amount", c.amount.toValue),
    ("destination", .string c.destination)]) ++
    [("parameters", c.parameters.map id)] ++
    Sheet.full [("metadata", c.metadata.toValue)]

theorem toValue_eq (c : Transaction) : c.toValue = .object c.sheet.members := by
  simp only [toValue, sheet, Sheet.members_append, Sheet.members_full, optionalMember_eq]

theorem keeps {c : Transaction}
    (parameters : ∀ v, c.parameters = some v → Decoder.any.Keeps (id v) v ∧ id v ≠ .null)
    (metadata : ManagerMetadata.decoder.Keeps c.metadata.toValue c.metadata) :
    decoder.Keeps c.toValue c :=
  keeps_flattened "TransactionOperationElem" (c := c.common) c.toValue_eq rfl (by decide)
    ((c.manager.fields_answers (by rfl) (by rfl) (by rfl) (by rfl) (by rfl))
      |>.required (by rfl) c.amount.keeps
      |>.required (by rfl) (keeps_text c.destination)
      |>.optional (by rfl) parameters
      |>.orElse (by rfl) metadata)
    (c.common.answers rfl)

theorem faithful : decoder.Faithful toValue := by
  refine faithful_flattened ?_
  refine .orElse ManagerMetadata.faithful ManagerMetadata.keeps_blank ?_
  refine .optional faithful_any (fun _ reaches => reaches.present) ?_
  refine .free (.free (Manager.fields_holds ?_))
  intro _ _ _ _ parameters _ metadata
  exact Common.fields_holds fun _ => keeps parameters metadata

end Transaction

namespace Ballot

def sheet (c : Ballot) : Sheet :=
  Sheet.full (c.common.members ++ [
    ("source", .string c.source),
    ("period", .integer c.period.toInt),
    ("proposal", .string c.proposal),
    ("ballot", .string c.ballot)]) ++
    [("metadata", c.metadata.map id)]

theorem toValue_eq (c : Ballot) : c.toValue = .object c.sheet.members := by
  simp only [toValue, sheet, Sheet.members_append, Sheet.members_full, optionalMember_eq]

theorem keeps {c : Ballot}
    (metadata : ∀ v, c.metadata = some v → Decoder.any.Keeps (id v) v ∧ id v ≠ .null) :
    decoder.Keeps c.toValue c :=
  keeps_flattened "BallotOperationElem" (c := c.common) c.toValue_eq rfl (by decide)
    ((Answers.make _ _)
      |>.required (by rfl) (keeps_text c.source)
      |>.required (by rfl) (keeps_int32 c.period)
      |>.required (by rfl) (keeps_text c.proposal)
      |>.required (by rfl) (keeps_text c.ballot)
      |>.optional (by rfl) metadata)
    (c.common.answers rfl)

theorem faithful : decoder.Faithful toValue := by
  refine faithful_flattened ?_
  refine .optional faithful_any (fun _ reaches => reaches.present) ?_
  refine .free (.free (.free (.free (.make ?_))))
  intro _ _ _ _ _ metadata
  exact Common.fields_holds fun _ => keeps metadata

end Ballot

namespace Proposals

def sheet (c : Proposals) : Sheet :=
  Sheet.full (c.common.members ++ [
    ("source", .string c.source),
    ("period", .integer c.period.toInt),
    ("proposals", textsToValue c.proposals)]) ++
    [("metadata", c.metadata.map id)]

theorem toValue_eq (c : Proposals) : c.toValue = .object c.sheet.members := by
  simp only [toValue, sheet, Sheet.members_append, Sheet.members_full, optionalMember_eq]

theorem keeps {c : Proposals}
    (metadata : ∀ v, c.metadata = some v → Decoder.any.Keeps (id v) v ∧ id v ≠ .null) :
    decoder.Keeps c.toValue c :=
  keeps_flattened "ProposalsOperationElem" (c := c.common) c.toValue_eq rfl (by decide)
    ((Answers.make _ _)
      |>.required (by rfl) (keeps_text c.source)
      |>.required (by rfl) (keeps_int32 c.period)
      |>.required (by rfl) (keeps_texts c.proposals)
      |>.optional (by rfl) metadata)
    (c.common.answers rfl)

theorem faithful : decoder.Faithful toValue := by
  refine faithful_flattened ?_
  refine .optional faithful_any (fun _ reaches => reaches.present) ?_
  refine .free (.free (.free (.make ?_)))
  intro _ _ _ _ metadata
  exact Common.fields_holds fun _ => keeps metadata

end Proposals

namespace SeedNonceRevelation

theorem keeps {c : SeedNonceRevelation}
    (metadata : UpdatesMetadata.decoder.Keeps c.metadata.toValue c.metadata) :
    decoder.Keeps c.toValue c :=
  keeps_flattened_full "SeedNonceRevelationOperationElem" (c := c.common) rfl (by decide)
    ((Answers.make _ _)
      |>.required (by rfl) (keeps_int32 c.level)
      |>.required (by rfl) (keeps_text c.nonce)
      |>.orElse (by rfl) metadata)
    (c.common.answers rfl)

theorem faithful : decoder.Faithful toValue := by
  refine faithful_flattened ?_
  refine .orElse UpdatesMetadata.faithful UpdatesMetadata.keeps_empty ?_
  exact .free (.free (.make fun _ _ _ metadata => Common.fields_holds fun _ => keeps metadata))

end SeedNonceRevelation

theorem InlinedContents.keeps (e : InlinedContents) : decoder.Keeps e.toValue e :=
  keeps_full "InlinedEndorsementContents" rfl (by decide) <| (Answers.make _ _)
    |>.orElse (by rfl) (keeps_text e.kind)
    |>.orElse (by rfl) (keeps_int32 e.level)

theorem InlinedEndorsement.keeps (e : InlinedEndorsement) : decoder.Keeps e.toValue e :=
  keeps_full "InlinedEndorsement" rfl (by decide) <| (Answers.make _ _)
    |>.orElse (by rfl) (keeps_text e.branch)
    |>.orElse (by rfl) e.operations.keeps
    |>.orElse (by rfl) (keeps_text e.signature)

namespace DoubleEndorsementEvidence

theorem keeps {c : DoubleEndorsementEvidence}
    (metadata : UpdatesMetadata.decoder.Keeps c.metadata.toValue c.metadata) :
    decoder.Keeps c.toValue c :=
  keeps_flattened_full "DoubleEndorsementEvidenceOperationElem" (c := c.common) rfl (by decide)
    ((Answers.make _ _)
      |>.required (by rfl) c.op1.keeps
      |>.required (by rfl) c.op2.keeps
      |>.orElse (by rfl) metadata)
    (c.common.answers rfl)

theorem faithful : decoder.Faithful toValue := by
  refine faithful_flattened ?_
  refine .orElse UpdatesMetadata.faithful UpdatesMetadata.keeps_empty ?_
  exact .free (.free (.make fun _ _ _ metadata => Common.fields_holds fun _ => keeps metadata))

end DoubleEndorsementEvidence

namespace DoubleBakingEvidence

theorem keeps {c : DoubleBakingEvidence} (first : BlockHeader.decoder.Keeps c.bh1.toValue c.bh1)
    (second : BlockHeader.decoder.Keeps c.bh2.toValue c.bh2)
    (metadata : UpdatesMetadata.decoder.Keeps c.metadata.toValue c.metadata) :
    decoder.Keeps c.toValue c :=
  keeps_flattened_full "DoubleBakingEvidenceOperationElem" (c := c.common) rfl (by decide)
    ((Answers.make _ _)
      |>.required (by rfl) first
      |>.required (by rfl) second
      |>.orElse (by rfl) metadata)
    (c.common.answers rfl)

theorem faithful : decoder.Faithful toValue := by
  refine faithful_flattened ?_
  refine .orElse UpdatesMetadata.faithful UpdatesMetadata.keeps_empty ?_
  refine .required BlockHeader.faithful (.required BlockHeader.faithful (.make ?_))
  intro _ first _ second _ metadata
  exact Common.fields_holds fun _ => keeps first second metadata

end DoubleBakingEvidence

namespace ActivateAccount

theorem keeps {c : ActivateAccount}
    (metadata : UpdatesMetadata.decoder.Keeps c.metadata.toValue c.metadata) :
    decoder.Keeps c.toValue c :=
  keeps_flattened_full "ActivateAccountOperationElem" (c := c.common) rfl (by decide)
    ((Answers.make _ _)
      |>.required (by rfl) (keeps_text c.pkh)
      |>.required (by rfl) (keeps_text c.secret)
      |>.orElse (by rfl) metadata)
    (c.common.answers rfl)

theorem faithful : decoder.Faithful toValue := by
  refine faithful_flattened ?_
  refine .orElse UpdatesMetadata.faithful UpdatesMetadata.keeps_empty ?_
  exact .free (.free (.make fun _ _ _ metadata => Common.fields_holds fun _ => keeps metadata))

end ActivateAccount

namespace Reveal

theorem keeps {c : Reveal} (metadata : ManagerMetadata.decoder.Keeps c.metadata.toValue c.metadata) :
    decoder.Keeps c.toValue c :=
  keeps_flattened_full "RevealOperationElem" (c := c.common) rfl (by decide)
    ((c.manager.fields_answers (by rfl) (by rfl) (by rfl) (by rfl) (by rfl))
      |>.required (by rfl) (keeps_text c.publicKey)
      |>.orElse (by rfl) metadata)
    (c.common.answers rfl)

theorem faithful : decoder.Faithful toValue := by
  refine faithful_flattened ?_
  refine .orElse ManagerMetadata.faithful ManagerMetadata.keeps_blank (.free (Manager.fields_holds ?_))
  intro _ _ _ metadata
  exact Common.fields_holds fun _ => keeps metadata

end Reveal

namespace Script

theorem keeps {s : Script} (code : Decoder.any.Keeps (id s.code) s.code)
    (storage : Decoder.any.Keeps (id s.storage) s.storage) : decoder.Keeps s.toValue s :=
  keeps_full "ScriptedContracts" rfl (by decide) <| (Answers.make _ _)
    |>.required (by rfl) code
    |>.required (by rfl) storage

theorem faithful : decoder.Faithful toValue :=
  faithful_record (.required faithful_any (.required faithful_any
    (.make fun _ code _ storage => keeps code storage)))

end Script

namespace Origination

def sheet (c : Origination) : Sheet :=
  Sheet.full (c.common.members ++ c.manager.members) ++
    [("managerPubkey", c.managerPubkey.map .string)] ++
    Sheet.full [("balance", c.balance.toValue)] ++
    [("spendable", c.spendable.map .bool)] ++
    [("delegatable", c.delegatable.map .bool)] ++
    [("delegate", c.delegate.map .string)] ++
    [("script", c.script.map Script.toValue)] ++
    Sheet.full [("metadata", c.metadata.toValue)]

theorem toValue_eq (c : Origination) : c.toValue = .object c.sheet.members := by
  simp only [toValue, sheet, Sheet.members_append, Sheet.members_full, optionalMember_eq]

theorem keeps {c : Origination}
    (script : ∀ s, c.script = some s → Script.decoder.Keeps s.toValue s ∧ s.toValue ≠ .null)
    (metadata : ManagerMetadata.decoder.Keeps c.metadata.toValue c.metadata) :
    decoder.Keeps c.toValue c :=
  keeps_flattened "OriginationOperationElem" (c := c.common) c.toValue_eq rfl (by decide)
    ((c.manager.fields_answers (by rfl) (by rfl) (by rfl) (by rfl) (by rfl))
      |>.optional (by rfl) (fun s _ => ⟨keeps_text s, nofun⟩)
      |>.required (by rfl) c.balance.keeps
      |>.optional (by rfl) (fun b _ => ⟨keeps_bool b, nofun⟩)
      |>.optional (by rfl) (fun b _ => ⟨keeps_bool b, nofun⟩)
      |>.optional (by rfl) (fun s _ => ⟨keeps_text s, nofun⟩)
      |>.optional (by rfl) script
      |>.orElse (by rfl) metadata)
    (c.common.answers rfl)

theorem faithful : decoder.Faithful toValue := by
  refine faithful_flattened ?_
  refine .orElse ManagerMetadata.faithful ManagerMetadata.keeps_blank ?_
  refine .optional Script.faithful (fun _ _ => nofun) ?_
  refine .free (.free (.free (.free (.free (Manager.fields_holds ?_)))))
  intro _ _ _ _ _ _ _ script _ metadata
  exact Common.fields_holds fun _ => keeps script metadata

end Origination

namespace Delegation

def sheet (c : Delegation) : Sheet :=
  Sheet.full (c.common.members ++ c.manager.members) ++
    [("delegate", c.delegate.map .string)] ++
    Sheet.full [("metadata", c.metadata.toValue)]

theorem toValue_eq (c : Delegation) : c.toValue = .object c.sheet.members := by
  simp only [toValue, sheet, Sheet.members_append, Sheet.members_full, optionalMember_eq]

theorem keeps {c : Delegation}
    (metadata : ManagerMetadata.decoder.Keeps c.metadata.toValue c.metadata) :
    decoder.Keeps c.toValue c :=
  keeps_flattened "DelegationOperationElem" (c := c.common) c.toValue_eq rfl (by decide)
    ((c.manager.fields_answers (by rfl) (by rfl) (by rfl) (by rfl) (by rfl))
      |>.optional (by rfl) (fun s _ => ⟨keeps_text s, nofun⟩)
      |>.orElse (by rfl) metadata)
    (c.common.answers rfl)

theorem faithful : decoder.Faithful toValue := by
  refine faithful_flattened ?_
  refine .orElse ManagerMetadata.faithful ManagerMetadata.keeps_blank (.free (Manager.fields_holds ?_))
  intro _ _ _ metadata
  exact Common.fields_holds fun _ => keeps metadata

end Delegation

theorem variant?_toValue {v : Value} {x : Content} (own : x.ownKind? = some x.kind)
    (decoded : variant? v x.kind = some (.ok x)) :
    variant? x.toValue.sorted x.kind = some (.ok x) := by
  cases x with
  | endorsement c =>
    rw [← Option.some.inj own] at decoded ⊢
    exact variant_returns Endorsement.faithful endorsement (fun _ _ => endorsement.inj) decoded
  | transaction c =>
    rw [← Option.some.inj own] at decoded ⊢
    exact variant_returns Transaction.faithful transaction (fun _ _ => transaction.inj) decoded
  | ballot c =>
    rw [← Option.some.inj own] at decoded ⊢
    exact variant_returns Ballot.faithful ballot (fun _ _ => ballot.inj) decoded
  | proposals c =>
    rw [← Option.some.inj own] at decoded ⊢
    exact variant_returns Proposals.faithful proposals (fun _ _ => proposals.inj) decoded
  | seedNonceRevelation c =>
    rw [← Option.some.inj own] at decoded ⊢
    exact variant_returns SeedNonceRevelation.faithful seedNonceRevelation
      (fun _ _ => seedNonceRevelation.inj) decoded
  | doubleEndorsementEvidence c =>
    rw [← Option.some.inj own] at decoded ⊢
    exact variant_returns DoubleEndorsementEvidence.faithful doubleEndorsementEvidence
      (fun _ _ => doubleEndorsementEvidence.inj) decoded
  | doubleBakingEvidence c =>
    rw [← Option.some.inj own] at decoded ⊢
    exact variant_returns DoubleBakingEvidence.faithful doubleBakingEvidence
      (fun _ _ => doubleBakingEvidence.inj) decoded
  | activateAccount c =>
    rw [← Option.some.inj own] at decoded ⊢
    exact variant_returns ActivateAccount.faithful activateAccount (fun _ _ => activateAccount.inj) decoded
  | reveal c =>
    rw [← Option.some.inj own] at decoded ⊢
    exact variant_returns Reveal.faithful reveal (fun _ _ => reveal.inj) decoded
  | origination c =>
    rw [← Option.some.inj own] at decoded ⊢
    exact variant_returns Origination.faithful origination (fun _ _ => origination.inj) decoded
  | delegation c =>
    rw [← Option.some.inj own] at decoded ⊢
    exact variant_returns Delegation.faithful delegation (fun _ _ => delegation.inj) decoded
  | other c => cases own

theorem family_returns {v : Value} {x : Content} (decoded : family.ofValue v = .ok x) :
    family.ofValue x.toValue.sorted = .ok x := by
  refine (family_governed v).returns (family_governed _) decoded (fun row own => ?_) fun unknown => ?_
  · have found := variant?_toValue own row
    exact ⟨found, (variant?_shares found).2⟩
  · cases x with
    | other c => exact ⟨rfl, c.keeps .sorted .value trivial⟩
    | _ => cases unknown

theorem faithful : decoder.Faithful toValue := Family.faithful fun _ _ => family_returns

theorem faithful_list : family.list.Faithful fun xs => .array (xs.map toValue) :=
  Family.faithful_list fun _ _ => family_returns

end TezosNode.Content
