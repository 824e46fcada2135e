import TezosNode.Model.Block
import TezosNode.Proofs.Decode.Families

namespace TezosNode

open Decode Json

instance : BalanceUpdate.Common.fields.Lawful := inferInstanceAs (Fields.Lawful (Fields.required ..))

instance : BalanceUpdate.Common.fields.Steady := inferInstanceAs (Fields.Steady (Fields.required ..))

instance : Content.Common.fields.Lawful := inferInstanceAs (Fields.Lawful (Fields.required ..))

instance : Content.Common.fields.Steady := inferInstanceAs (Fields.Steady (Fields.required ..))

instance : TestChain.Common.fields.Lawful := inferInstanceAs (Fields.Lawful (Fields.required ..))

instance : TestChain.Common.fields.Steady := inferInstanceAs (Fields.Steady (Fields.required ..))

namespace BalanceUpdate

def ownKind? : BalanceUpdate → Option String
  | contract _ => some "contract"
  | freezer _ => some "freezer"
  | other _ => none

def variant? (v : Value) : String → Option (Except Fault BalanceUpdate)
  | "contract" => some ((Contract.decoder.ofValue v).map .contract)
  | "freezer" => some ((Freezer.decoder.ofValue v).map .freezer)
  | _ => none

theorem variant?_eq (v : Value) (tag : String) :
    variant? v tag = (family.lookup? tag).map (·.ofValue v) := by
  unfold variant?
  split
  · rfl
  · rfl
  · have unknown : tag ∉ family.names := by
      simp only [Family.names, family, List.map_cons, List.map_nil, List.mem_cons]
      simp_all
    rw [family.lookup?_of_not_mem unknown]
    rfl

theorem variant?_shares {v : Value} {tag : String} {x : BalanceUpdate}
    (decoded : variant? v tag = some (.ok x)) :
    x.ownKind? = some tag ∧ Common.decoder.ofValue v = .ok x.common := by
  unfold variant? at decoded
  split at decoded
  · obtain ⟨u, rfl, same⟩ := Decoder.variant_shares Contract.common (by decide)
      (.required (.make fun _ _ => rfl)) decoded
    exact ⟨rfl, same⟩
  · obtain ⟨u, rfl, same⟩ := Decoder.variant_shares Freezer.common (by decide)
      (.required (.required (.required (.make fun _ _ _ _ => rfl)))) decoded
    exact ⟨rfl, same⟩
  · cases decoded

theorem family_governed (v : Value) : family.Governed common kind ownKind? (variant? v) v :=
  family.governed (variant?_eq v) (fun _ => rfl) (fun _ _ => variant?_shares) fun _ => ⟨rfl, rfl⟩

end BalanceUpdate

namespace Content

instance {α : Type} (make : Manager → α) : (Manager.fields make).Lawful :=
  inferInstanceAs (Fields.Lawful (Fields.optional ..))

theorem Manager.fields_makes {α : Type} {make : Manager → α} {P : α → Prop}
    (makes : ∀ m, P (make m)) : (Manager.fields make).Makes P := by
  unfold Manager.fields
  exact .optional (.optional (.optional (.optional (.required (.make fun _ _ _ _ _ => makes _)))))

def ownKind? : Content → Option String
  | endorsement _ => some "endorsement"
  | transaction _ => some "transaction"
  | ballot _ => some "ballot"
  | proposals _ => some "proposals"
  | seedNonceRevelation _ => some "seed_nonce_revelation"
  | doubleEndorsementEvidence _ => some "double_endorsement_evidence"
  | doubleBakingEvidence _ => some "double_baking_evidence"
  | activateAccount _ => some "activate_account"
  | reveal _ => some "reveal"
  | origination _ => some "origination"
  | delegation _ => some "delegation"
  | other _ => none

def variant? (v : Value) : String → Option (Except Fault Content)
  | "endorsement" => some ((Endorsement.decoder.ofValue v).map .endorsement)
  | "transaction" => some ((Transaction.decoder.ofValue v).map .transaction)
  | "ballot" => some ((Ballot.decoder.ofValue v).map .ballot)
  | "proposals" => some ((Proposals.decoder.ofValue v).map .proposals)
  | "seed_nonce_revelation" => some ((SeedNonceRevelation.decoder.ofValue v).map .seedNonceRevelation)
  | "double_endorsement_evidence" =>
    some ((DoubleEndorsementEvidence.decoder.ofValue v).map .doubleEndorsementEvidence)
  | "double_baking_evidence" => some ((DoubleBakingEvidence.decoder.ofValue v).map .doubleBakingEvidence)
  | "activate_account" => some ((ActivateAccount.decoder.ofValue v).map .activateAccount)
  | "reveal" => some ((Reveal.decoder.ofValue v).map .reveal)
  | "origination" => some ((Origination.decoder.ofValue v).map .origination)
  | "delegation" => some ((Delegation.decoder.ofValue v).map .delegation)
  | _ => none

theorem variant?_eq (v : Value) (tag : String) :
    variant? v tag = (family.lookup? tag).map (·.ofValue v) := by
  unfold variant?
  split
  · rfl
  · rfl
  · rfl
  · rfl
  · rfl
  · rfl
  · rfl
  · rfl
  · rfl
  · rfl
  · rfl
  · have unknown : tag ∉ family.names := by
      simp only [Family.names, family, List.map_cons, List.map_nil, List.mem_cons]
      simp_all
    rw [family.lookup?_of_not_mem unknown]
    rfl

theorem variant?_shares {v : Value} {tag : String} {x : Content}
    (decoded : variant? v tag = some (.ok x)) :
    x.ownKind? = some tag ∧ Common.decoder.ofValue v = .ok x.common := by
  unfold variant? at decoded
  split at decoded
  · obtain ⟨c, rfl, same⟩ := Decoder.variant_shares Endorsement.common (by decide)
      (.orElse (.required (.make fun _ _ _ => rfl))) decoded
    exact ⟨rfl, same⟩
  · obtain ⟨c, rfl, same⟩ := Decoder.variant_shares Transaction.common (by decide)
      (.orElse (.optional (.required (.required (Manager.fields_makes fun _ _ _ _ _ _ => rfl))))) decoded
    exact ⟨rfl, same⟩
  · obtain ⟨c, rfl, same⟩ := Decoder.variant_shares Ballot.common (by decide)
      (.optional (.required (.required (.required (.required (.make fun _ _ _ _ _ _ => rfl)))))) decoded
    exact ⟨rfl, same⟩
  · obtain ⟨c, rfl, same⟩ := Decoder.variant_shares Proposals.common (by decide)
      (.optional (.required (.required (.required (.make fun _ _ _ _ _ => rfl))))) decoded
    exact ⟨rfl, same⟩
  · obtain ⟨c, rfl, same⟩ := Decoder.variant_shares SeedNonceRevelation.common (by decide)
      (.orElse (.required (.required (.make fun _ _ _ _ => rfl)))) decoded
    exact ⟨rfl, same⟩
  · obtain ⟨c, rfl, same⟩ := Decoder.variant_shares DoubleEndorsementEvidence.common (by decide)
      (.orElse (.required (.required (.make fun _ _ _ _ => rfl)))) decoded
    exact ⟨rfl, same⟩
  · obtain ⟨c, rfl, same⟩ := Decoder.variant_shares DoubleBakingEvidence.common (by decide)
      (.orElse (.required (.required (.make fun _ _ _ _ => rfl)))) decoded
    exact ⟨rfl, same⟩
  · obtain ⟨c, rfl, same⟩ := Decoder.variant_shares ActivateAccount.common (by decide)
      (.orElse (.required (.required (.make fun _ _ _ _ => rfl)))) decoded
    exact ⟨rfl, same⟩
  · obtain ⟨c, rfl, same⟩ := Decoder.variant_shares Reveal.common (by decide)
      (.orElse (.required (Manager.fields_makes fun _ _ _ _ => rfl))) decoded
    exact ⟨rfl, same⟩
  · obtain ⟨c, rfl, same⟩ := Decoder.variant_shares Origination.common (by decide)
      (.orElse (.optional (.optional (.optional (.optional (.required (.optional
      (Manager.fields_makes fun _ _ _ _ _ _ _ _ _ => rfl)))))))) decoded
    exact ⟨rfl, same⟩
  · obtain ⟨c, rfl, same⟩ := Decoder.variant_shares Delegation.common (by decide)
      (.orElse (.optional (Manager.fields_makes fun _ _ _ _ => rfl))) decoded
    exact ⟨rfl, same⟩
  · cases decoded

theorem family_governed (v : Value) : family.Governed common kind ownKind? (variant? v) v :=
  family.governed (variant?_eq v) (fun _ => rfl) (fun _ _ => variant?_shares) fun _ => ⟨rfl, rfl⟩

end Content

namespace TestChain

def ownStatus? : TestChain → Option String
  | notRunning _ => some "not_running"
  | forking _ => some "forking"
  | running _ => some "running"
  | other _ => none

def variant? (v : Value) : String → Option (Except Fault TestChain)
  | "not_running" => some ((NotRunning.decoder.ofValue v).map .notRunning)
  | "forking" => some ((Forking.decoder.ofValue v).map .forking)
  | "running" => some ((Running.decoder.ofValue v).map .running)
  | _ => none

theorem variant?_eq (v : Value) (tag : String) :
    variant? v tag = (family.lookup? tag).map (·.ofValue v) := by
  unfold variant?
  split
  · rfl
  · rfl
  · rfl
  · have unknown : tag ∉ family.names := by
      simp only [Family.names, family, List.map_cons, List.map_nil, List.mem_cons]
      simp_all
    rw [family.lookup?_of_not_mem unknown]
    rfl

theorem variant?_shares {v : Value} {tag : String} {x : TestChain}
    (decoded : variant? v tag = some (.ok x)) :
    x.ownStatus? = some tag ∧ Common.decoder.ofValue v = .ok x.common := by
  unfold variant? at decoded
  split at decoded
  · obtain ⟨s, rfl, same⟩ := Decoder.variant_shares NotRunning.common (by decide)
      (.make fun _ => rfl) decoded
    exact ⟨rfl, same⟩
  · obtain ⟨s, rfl, same⟩ := Decoder.variant_shares Forking.common (by decide)
      (.required (.required (.make fun _ _ _ => rfl))) decoded
    exact ⟨rfl, same⟩
  · obtain ⟨s, rfl, same⟩ := Decoder.variant_shares Running.common (by decide)
      (.required (.required (.required (.required (.make fun _ _ _ _ _ => rfl))))) decoded
    exact ⟨rfl, same⟩
  · cases decoded

theorem family_governed (v : Value) : family.Governed common status ownStatus? (variant? v) v :=
  family.governed (variant?_eq v) (fun _ => rfl) (fun _ _ => variant?_shares) fun _ => ⟨rfl, rfl⟩

end TestChain

/-- Whatever a value holds besides, its tag alone governs what it is decoded to. -/
theorem decoding_governed_by_tag (v : Value) :
    BalanceUpdate.family.Governed BalanceUpdate.common BalanceUpdate.kind BalanceUpdate.ownKind?
      (BalanceUpdate.variant? v) v ∧
    Content.family.Governed Content.common Content.kind Content.ownKind? (Content.variant? v) v ∧
    TestChain.family.Governed TestChain.common TestChain.status TestChain.ownStatus?
      (TestChain.variant? v) v :=
  ⟨BalanceUpdate.family_governed v, Content.family_governed v, TestChain.family_governed v⟩

end TezosNode
