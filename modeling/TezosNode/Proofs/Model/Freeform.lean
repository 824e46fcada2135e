import TezosNode.Model.Block
import TezosNode.Proofs.Json.Rendering

namespace TezosNode

open Json

namespace Json

theorem Value.areExact_eq_all (items : List Value) : areExact items = items.all isExact := by
  induction items with
  | nil => rfl
  | cons item items ih => rw [areExact, ih, List.all_cons]

theorem Value.membersExact_eq_all (members : List (String × Value)) :
    membersExact members = members.all fun member => member.2.isExact := by
  induction members with
  | nil => rfl
  | cons member members ih => rw [membersExact, ih, List.all_cons]

@[simp]
theorem Value.isExact_string (s : String) : (Value.string s).isExact = true := rfl

@[simp]
theorem Value.isExact_bool (b : Bool) : (Value.bool b).isExact = true := rfl

@[simp]
theorem Value.isExact_null : Value.null.isExact = true := rfl

@[simp]
theorem Value.isExact_array_map {α : Type} (write : α → Value) (as : List α) :
    (Value.array (as.map write)).isExact = as.all fun a => (write a).isExact := by
  rw [isExact, areExact_eq_all, List.all_map]
  rfl

@[simp]
theorem Value.isExact_object (members : List (String × Value)) :
    (Value.object members).isExact = members.all fun member => member.2.isExact :=
  membersExact_eq_all members

theorem Value.isExact_integer {n : Int} (low : -9223372036854775808 ≤ n)
    (high : n < 18446744073709551616) : (Value.integer n).isExact = true := by
  simp [Value.integer, isExact, Number.isExact, low, high]

@[simp]
theorem Value.isExact_int32 (n : Int32) : (Value.integer n.toInt).isExact = true := by
  have low := n.le_toInt
  have high := n.toInt_lt
  exact isExact_integer (by omega) (by omega)

@[simp]
theorem Value.isExact_int64 (n : Int64) : (Value.integer n.toInt).isExact = true := by
  have low := n.le_toInt
  have high := n.toInt_lt
  exact isExact_integer (by omega) (by omega)

@[simp]
theorem Value.isExact_uint32 (n : UInt32) : (Value.integer n.toNat).isExact = true := by
  have high := n.toNat_lt
  exact isExact_integer (by omega) (by omega)

@[simp]
theorem Value.isExact_uint16 (n : UInt16) : (Value.integer n.toNat).isExact = true := by
  have high := n.toNat_lt
  exact isExact_integer (by omega) (by omega)

@[simp]
theorem Value.isExact_uint8 (n : UInt8) : (Value.integer n.toNat).isExact = true := by
  have high := n.toNat_lt
  exact isExact_integer (by omega) (by omega)

end Json

section

variable {α : Type} {write : α → Value}

theorem optionalMember_isExact (key : String) (a? : Option α) :
    (optionalMember key write a?).all (fun member => member.2.isExact) =
      a?.all fun a => (write a).isExact := by
  cases a? <;> simp [optionalMember]

theorem toList_all (p : α → Bool) (a? : Option α) : a?.toList.all p = a?.all p := by
  cases a? <;> simp

theorem optionalToValue_isExact (a? : Option α) :
    (optionalToValue write a?).isExact = a?.all fun a => (write a).isExact := by
  cases a? <;> simp [optionalToValue]

theorem listMember_isExact {write : List α → Value} (key : String) (as : List α)
    (empty : (write []).isExact = true) :
    (ManagerResult.listMember key write as).all (fun member => member.2.isExact) =
      (write as).isExact := by
  cases as with
  | nil => simp [ManagerResult.listMember, empty]
  | cons a as => simp [ManagerResult.listMember]

end

@[simp]
theorem Amount.toValue_isExact (a : Amount) : a.toValue.isExact = true := rfl

@[simp]
theorem textsToValue_isExact (texts : List String) : (textsToValue texts).isExact = true := by
  simp [textsToValue]

@[simp]
theorem fitnessToValue_isExact (fitness : List Bytes) : (fitnessToValue fitness).isExact = true := by
  simp [fitnessToValue]

@[simp]
theorem BlockHead.toValue_isExact (b : BlockHead) : b.toValue.isExact = true := by
  simp [toValue]

@[simp]
theorem BlockHeader.toValue_isExact (b : BlockHeader) : b.toValue.isExact = true := by
  simp [toValue, optionalMember_isExact]

@[simp]
theorem BalanceUpdate.toValue_isExact (u : BalanceUpdate) : u.toValue.isExact = true := by
  cases u <;> simp [toValue, Contract.toValue, Freezer.toValue, Common.members]

@[simp]
theorem BalanceUpdate.listToValue_isExact (us : List BalanceUpdate) : (listToValue us).isExact = true := by
  simp [listToValue]

@[simp]
theorem TestChain.toValue_isExact (s : TestChain) : s.toValue.isExact = true := by
  cases s <;> simp [toValue, Forking.toValue, Running.toValue, Common.members]

@[simp]
theorem UpdatesMetadata.toValue_isExact (m : UpdatesMetadata) : m.toValue.isExact = true := by
  simp [toValue]

@[simp]
theorem EndorsementMetadata.toValue_isExact (m : EndorsementMetadata) : m.toValue.isExact = true := by
  simp [toValue]

@[simp]
theorem BlockMetadata.toValue_isExact (m : BlockMetadata) : m.toValue.isExact = true := by
  simp [toValue, optionalMember_isExact, OperationLimit.toValue, BlockLevel.toValue]

/-- The members that come with an error. -/
def ErrorRecord.freeform (e : ErrorRecord) : List Value := e.extra.map Prod.snd

theorem ErrorRecord.toValue_isExact (e : ErrorRecord) :
    e.toValue.isExact = e.freeform.all Value.isExact := by
  simp [toValue, freeform, Function.comp_def]

theorem ErrorRecord.listToValue_isExact (errors : List ErrorRecord) :
    (listToValue errors).isExact = (errors.flatMap freeform).all Value.isExact := by
  simp [listToValue, toValue_isExact, List.all_flatMap]

def ManagerResult.freeform (r : ManagerResult) : List Value :=
  r.storage.toList ++ r.errors.flatMap ErrorRecord.freeform

theorem ManagerResult.toValue_isExact (r : ManagerResult) :
    r.toValue.isExact = r.freeform.all Value.isExact := by
  simp [toValue, freeform, optionalMember_isExact, listMember_isExact, toList_all,
    ErrorRecord.listToValue_isExact]

def ManagerMetadata.freeform (m : ManagerMetadata) : List Value := m.operationResult.freeform

theorem ManagerMetadata.toValue_isExact (m : ManagerMetadata) :
    m.toValue.isExact = m.freeform.all Value.isExact := by
  simp [toValue, freeform, ManagerResult.toValue_isExact]

namespace Content

@[simp]
theorem Common.members_isExact (c : Common) :
    c.members.all (fun member => member.2.isExact) = true := by
  simp [members]

@[simp]
theorem Manager.members_isExact (m : Manager) :
    m.members.all (fun member => member.2.isExact) = true := by
  simp [members, optionalToValue_isExact]

def Script.freeform (s : Script) : List Value := [s.code, s.storage]

/-- Parameters, scripts, the metadata of votes and what the results of manager operations have. -/
def freeform : Content → List Value
  | transaction c => c.parameters.toList ++ c.metadata.freeform
  | ballot c => c.metadata.toList
  | proposals c => c.metadata.toList
  | reveal c => c.metadata.freeform
  | origination c => c.script.toList.flatMap Script.freeform ++ c.metadata.freeform
  | delegation c => c.metadata.freeform
  | _ => []

theorem InlinedEndorsement.toValue_isExact (e : InlinedEndorsement) : e.toValue.isExact = true := by
  simp [toValue, InlinedContents.toValue]

theorem Script.toValue_isExact (s : Script) : s.toValue.isExact = s.freeform.all Value.isExact := by
  simp [toValue, freeform]

theorem toValue_isExact (c : Content) : c.toValue.isExact = c.freeform.all Value.isExact := by
  cases c with
  | endorsement c => simp [toValue, Endorsement.toValue, freeform]
  | transaction c =>
    simp [toValue, Transaction.toValue, freeform, optionalMember_isExact, toList_all,
      ManagerMetadata.toValue_isExact]
  | ballot c => simp [toValue, Ballot.toValue, freeform, optionalMember_isExact, toList_all]
  | proposals c => simp [toValue, Proposals.toValue, freeform, optionalMember_isExact, toList_all]
  | seedNonceRevelation c => simp [toValue, SeedNonceRevelation.toValue, freeform]
  | doubleEndorsementEvidence c =>
    simp [toValue, DoubleEndorsementEvidence.toValue, freeform, InlinedEndorsement.toValue_isExact]
  | doubleBakingEvidence c => simp [toValue, DoubleBakingEvidence.toValue, freeform]
  | activateAccount c => simp [toValue, ActivateAccount.toValue, freeform]
  | reveal c => simp [toValue, Reveal.toValue, freeform, ManagerMetadata.toValue_isExact]
  | origination c =>
    simp [toValue, Origination.toValue, freeform, optionalMember_isExact, toList_all,
      List.all_flatMap, Script.toValue_isExact, ManagerMetadata.toValue_isExact]
  | delegation c =>
    simp [toValue, Delegation.toValue, freeform, optionalMember_isExact,
      ManagerMetadata.toValue_isExact]
  | other common => simp [toValue, freeform]

end Content

def Operation.freeform (o : Operation) : List Value := o.contents.flatMap Content.freeform

theorem Operation.members_isExact (o : Operation) :
    o.members.all (fun member => member.2.isExact) = o.freeform.all Value.isExact := by
  simp [members, freeform, Content.toValue_isExact, List.all_flatMap]

theorem Operation.toValue_isExact (o : Operation) :
    o.toValue.isExact = o.freeform.all Value.isExact := by
  rw [toValue, Value.isExact_object, members_isExact]

def RefusedOperation.freeform (r : RefusedOperation) : List Value :=
  r.operation.freeform ++ r.errors.flatMap ErrorRecord.freeform

theorem RefusedOperation.toValue_isExact (r : RefusedOperation) :
    r.toValue.isExact = r.freeform.all Value.isExact := by
  simp [toValue, freeform, Operation.members_isExact, ErrorRecord.listToValue_isExact]

def Block.freeform (b : Block) : List Value :=
  b.operations.flatMap fun pass => pass.flatMap Operation.freeform

theorem Block.toValue_isExact (b : Block) : b.toValue.isExact = b.freeform.all Value.isExact := by
  simp [toValue, freeform, Operation.toValue_isExact, List.all_flatMap]

def RefusedBlock.freeform (b : RefusedBlock) : List Value := b.errors.flatMap ErrorRecord.freeform

theorem RefusedBlock.toValue_isExact (b : RefusedBlock) :
    b.toValue.isExact = b.freeform.all Value.isExact := by
  simp [toValue, freeform, ErrorRecord.listToValue_isExact]

end TezosNode
