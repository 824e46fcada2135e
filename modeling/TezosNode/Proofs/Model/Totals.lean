import Mathlib.Algebra.BigOperators.Group.List.Basic
import TezosNode.Proofs.Model.Blocks
import TezosNode.Proofs.Model.Fees

/-!
Which totals there are. A total fails as soon as one sum on the way leaves the range of amounts, and every
list of amounts can be sent as fees. No order of the contents makes it fail exactly if neither all that is
paid nor all that is given back leaves the range on its own.
-/

namespace TezosNode

open Decode Json Decoder

theorem sum_take_bounds (ns : List Int) (k : Nat) :
    (ns.filter (· < 0)).sum ≤ (ns.take k).sum ∧ (ns.take k).sum ≤ (ns.filter (0 < ·)).sum := by
  induction ns generalizing k with
  | nil => simp
  | cons n ns ih =>
    have lower : ((n :: ns).filter (· < 0)).sum = min n 0 + (ns.filter (· < 0)).sum := by
      rw [List.filter_cons]
      split <;> simp at * <;> omega
    have upper : ((n :: ns).filter (0 < ·)).sum = max n 0 + (ns.filter (0 < ·)).sum := by
      rw [List.filter_cons]
      split <;> simp at * <;> omega
    rw [lower, upper]
    cases k with
    | zero =>
      obtain ⟨below, above⟩ := ih 0
      simp only [List.take_zero, List.sum_nil] at *
      omega
    | succ k =>
      obtain ⟨below, above⟩ := ih k
      rw [List.take_succ_cons, List.sum_cons]
      omega

namespace Operation

theorem exists_totalFee_iff (o : Operation) :
    (∃ total, o.totalFee = .ok total) ↔ ∀ k, Amount.InRange (o.fees.take k).sum := by
  simp only [totalFee_iff]
  exact Amount.exists_sum_iff

/-- What some of the contents add can always be made the sum on the way, by moving these to the front. -/
theorem sum_in_front (o : Operation) (p : Int → Bool) :
    ∃ contents, contents.Perm o.contents ∧ ∃ k, ({ o with contents }.fees.take k).sum = (o.fees.filter p).sum := by
  -- the contents whose fees count come first, then the others
  let front := o.contents.filter (p ∘ addend Content.fee?)
  let back := o.contents.filter fun c => !(p ∘ addend Content.fee?) c
  refine ⟨front ++ back, List.filter_append_perm .., front.length, ?_⟩
  have moved : { o with contents := front ++ back }.fees.take front.length = front.map (addend Content.fee?) := by
    rw [fees, List.map_append]
    exact List.take_left' (List.length_map _)
  rw [moved, fees, List.filter_map]

theorem fees_perm {o : Operation} {contents : List Content} (perm : contents.Perm o.contents) :
    { o with contents }.fees.Perm o.fees := perm.map _

/-- There is a total in whatever order the contents stand exactly if neither the positive fees nor the
negative ones leave the range among themselves. -/
theorem totals_in_any_order (o : Operation) :
    (∀ contents, contents.Perm o.contents → ∃ total, { o with contents }.totalFee = .ok total) ↔
      (o.fees.filter (0 < ·)).sum < Amount.limit ∧ -Amount.limit ≤ (o.fees.filter (· < 0)).sum := by
  constructor
  · intro all
    have reached (p : Int → Bool) : Amount.InRange (o.fees.filter p).sum := by
      obtain ⟨contents, perm, k, same⟩ := o.sum_in_front p
      rw [← same]
      exact (exists_totalFee_iff _).mp (all contents perm) k
    exact ⟨(reached _).2, (reached _).1⟩
  · rintro ⟨above, below⟩ contents perm
    refine (exists_totalFee_iff _).mpr fun k => ?_
    have same := fees_perm perm
    obtain ⟨least, most⟩ := sum_take_bounds { o with contents }.fees k
    rw [(same.filter _).sum_eq] at least most
    exact ⟨below.trans least, lt_of_le_of_lt most above⟩

end Operation

namespace Content

theorem ofValue_of_variant {v : Value} {x : Content} (row : variant? v x.kind = some (.ok x))
    (registered : x.kind ∈ family.names) : family.ofValue v = .ok x := by
  have probed : family.common.ofValue v = .ok x.common := (variant?_shares row).2
  have found := (family_governed v).registered x.common probed registered
  exact (Option.some.inj (row.symm.trans found)).symm

def feeOnly (fee : Amount) : Content :=
  .delegation ⟨⟨"delegation"⟩, ⟨"", some fee, none, none, none⟩, none, .blank⟩

theorem feeOnly_returns (fee : Amount) : family.ofValue (feeOnly fee).toValue.sorted = .ok (feeOnly fee) := by
  have keeps := Delegation.keeps (c := ⟨⟨"delegation"⟩, ⟨"", some fee, none, none, none⟩, none, .blank⟩)
    ManagerMetadata.keeps_blank
  have registered : "delegation" ∈ family.names := by decide
  exact ofValue_of_variant (variant_keeps keeps) registered

end Content

namespace Operation

/-- Every list of amounts is the fees of an operation that is decoded. -/
theorem fees_sent (amounts : List Amount) :
    ∃ o : Operation, decoder.ofValue o.toValue = .ok o ∧ o.fees = amounts.map Amount.value := by
  refine ⟨⟨"", "", "", "", amounts.map Content.feeOnly, ""⟩, ?_, ?_⟩
  · have contents : Content.family.list.Keeps
        (.array ((amounts.map Content.feeOnly).map Content.toValue)) (amounts.map Content.feeOnly) := by
      refine Family.keeps_list fun x member => ?_
      obtain ⟨fee, _, rfl⟩ := List.mem_map.mp member
      exact Content.feeOnly_returns fee
    exact Operation.keeps contents .written .value trivial
  · rw [fees, List.map_map]
    rfl

/-- There is a total exactly if no sum on the way leaves the range, and there is one in every order of the
contents exactly if the fees of neither sign leave it among themselves. Whatever the fees are, they can be
sent. -/
theorem totals_governed (o : Operation) :
    ((∃ total, o.totalFee = .ok total) ↔ ∀ k, Amount.InRange (o.fees.take k).sum) ∧
    ((∀ contents, contents.Perm o.contents → ∃ total, { o with contents }.totalFee = .ok total) ↔
      (o.fees.filter (0 < ·)).sum < Amount.limit ∧ -Amount.limit ≤ (o.fees.filter (· < 0)).sum) ∧
    ∃ sent : Operation, decoder.ofValue sent.toValue = .ok sent ∧ sent.fees = o.fees := by
  obtain ⟨sent, decoded, same⟩ := fees_sent (o.contents.map fun c => (Content.fee? c).getD .zero)
  refine ⟨o.exists_totalFee_iff, o.totals_in_any_order, sent, decoded, ?_⟩
  rw [same, fees, List.map_map]
  refine List.map_congr_left fun c _ => ?_
  rw [Function.comp_apply, addend]
  cases Content.fee? c <;> rfl

/-- The greatest and the least amount, one of each, may stand in any order. -/
theorem totals_governed_opposite :
    let o : Operation := ⟨"", "", "", "", [.feeOnly ⟨-Amount.limit, by decide, by decide⟩,
      .feeOnly ⟨Amount.limit - 1, by decide, by decide⟩], ""⟩
    ∀ contents, contents.Perm o.contents → ∃ total, { o with contents }.totalFee = .ok total := by
  intro o
  obtain ⟨_, orders, _⟩ := totals_governed o
  exact orders.mpr ⟨by decide, by decide⟩

/-- Three fees whose sum is an amount, and no total: the first two leave the range. -/
theorem total_failed :
    let pays (fee : String) : Value :=
      .object [("kind", .string "delegation"), ("source", .string "tz1a"), ("fee", .string fee)]
    ∃ o, decoder.ofValue (.object [("contents", .array [
        pays "170141183460469231731687303715884105727", pays "1", pays "-1"])]) = .ok o ∧
      o.fees.sum = Amount.limit - 1 ∧ o.totalFee = .error .overflow :=
  ⟨_, rfl, by decide, rfl⟩

end Operation

end TezosNode
