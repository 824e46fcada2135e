import TezosNode.Proofs.Decode.Lists
import TezosNode.Proofs.Decode.Scalars
import TezosNode.Proofs.Model.Listed
import TezosNode.Proofs.Model.Shown
import TezosNode.Proofs.Model.Sums

/-!
What an operation pays. The total is the sum of the integers that its contents write as their fees, and it
is known as long as no sum on the way leaves the range of amounts.
-/

namespace TezosNode

open Decode Json Decoder

namespace Amount

theorem value_of_read {s : String} {a : Amount} (done : read s = .ok a) :
    a.value = Text.integerOf (Text.trim s.toList) :=
  (Text.writes_trim_iff.mpr (read_iff.mp done)).eq_integerOf

end Amount

namespace Content

def paying : List String := ["transaction", "reveal", "origination", "delegation"]

theorem paying_registered : ∀ kind ∈ paying, kind ∈ family.names := by decide

/-- The integer that a fee writes, nothing where there is none. -/
def feeOf : Option Value → Int
  | some (.string s) => Text.integerOf (Text.trim s.toList)
  | _ => 0

/-- The fee that a content states. Kinds that pay no fee state none, whatever stands under that name. -/
def statedFee : Value → Int
  | .object members =>
    match members.lookup "kind" with
    | some (.string kind) => if kind ∈ paying then feeOf (members.lookup "fee") else 0
    | _ => 0
  | _ => 0

theorem value_of_entry {fee : Option Value} {amount? : Option Amount}
    (entry : Entry Amount.decoder.option .value (some none) fee amount?) :
    (amount?.getD .zero).value = feeOf fee := by
  cases fee with
  | none =>
    cases entry
    rfl
  | some v =>
    cases v with
    | null =>
      cases entry
      rfl
    | string s =>
      have read : ((Amount.read s).mapError Fault.integer).map some = .ok amount? := entry
      obtain ⟨a, found, rfl⟩ := map_ok read
      cases known : Amount.read s with
      | error fault =>
        rw [known] at found
        cases found
      | ok b =>
        rw [known] at found
        cases found
        exact Amount.value_of_read known
    | _ => cases entry

theorem value_of_manager {α : Type} {name : String} {own : Fields (Common → α)} [own.Lawful]
    (manager : α → Manager) (apart : ∀ key ∈ Common.fields.names, key ∉ own.names)
    (tells : own.Tells "fee" 1 Amount.decoder.option (some none) fun make fee =>
      ∀ c, (manager (make c)).fee = fee)
    {members : List (String × Value)} {x : α}
    (decoded : (flattened name own (.fields Common.fields)).ofValue (.object members) = .ok x) :
    ((manager x).fee.getD .zero).value = feeOf (members.lookup "fee") := by
  have shows : (flattened name own (.fields Common.fields)).Shows "fee" Amount.decoder.option (some none)
      fun x fee => (manager x).fee = fee := flattened_shows apart tells
  obtain ⟨fee, entry, rfl⟩ := shows members x decoded
  exact value_of_entry entry

/-- A kind without a fee adds nothing, whatever it is read from. -/
theorem addend_unpaid {α : Type} {read : Except Fault α} {kind : α → Content} {x : Content}
    (decoded : some (read.map kind) = some (.ok x)) (unpaid : ∀ a, (kind a).manager? = none) :
    addend fee? x = 0 := by
  obtain ⟨a, _, rfl⟩ := map_ok (Option.some.inj decoded)
  rw [addend, fee?, unpaid]
  rfl

theorem variant_fee {members : List (String × Value)} {kind : String} {x : Content}
    (decoded : variant? (.object members) kind = some (.ok x)) :
    addend fee? x = if kind ∈ paying then feeOf (members.lookup "fee") else 0 := by
  unfold variant? at decoded
  split at decoded
  case h_1 | h_3 | h_4 | h_5 | h_6 | h_7 | h_8 => exact addend_unpaid decoded fun _ => rfl
  case h_2 =>
    obtain ⟨c, found, rfl⟩ := map_ok (Option.some.inj decoded)
    refine value_of_manager Transaction.manager (by decide) ?_ found
    exact .later (by decide) (.later (by decide) (.later (by decide) (.later (by decide)
      (Manager.fields_tells fun _ _ _ _ _ _ => rfl))))
  case h_9 =>
    obtain ⟨c, found, rfl⟩ := map_ok (Option.some.inj decoded)
    refine value_of_manager Reveal.manager (by decide) ?_ found
    exact .later (by decide) (.later (by decide) (Manager.fields_tells fun _ _ _ _ => rfl))
  case h_10 =>
    obtain ⟨c, found, rfl⟩ := map_ok (Option.some.inj decoded)
    refine value_of_manager Origination.manager (by decide) ?_ found
    exact .later (by decide) (.later (by decide) (.later (by decide) (.later (by decide) (.later (by decide)
      (.later (by decide) (.later (by decide) (Manager.fields_tells fun _ _ _ _ _ _ _ _ _ => rfl)))))))
  case h_11 =>
    obtain ⟨c, found, rfl⟩ := map_ok (Option.some.inj decoded)
    refine value_of_manager Delegation.manager (by decide) ?_ found
    exact .later (by decide) (.later (by decide) (Manager.fields_tells fun _ _ _ _ => rfl))
  case h_12 => cases decoded

theorem addend_fee {v : Value} {x : Content} (decoded : family.ofValue v = .ok x) :
    addend fee? x = statedFee v := by
  rcases (family_takes v).decoded x decoded with ⟨members, rfl, tagged⟩ | ⟨items, c, rfl, _, _, rfl⟩
  · have governed := family_governed (.object members)
    obtain ⟨probed, kind_eq, _⟩ := governed.told x decoded
    have stated : statedFee (.object members) =
        if x.kind ∈ paying then feeOf (members.lookup "fee") else 0 := by
      rw [statedFee, tagged]
    rw [stated]
    by_cases known : x.kind ∈ family.names
    · have row := governed.registered _ probed (kind_eq ▸ known)
      rw [decoded, ← kind_eq] at row
      exact variant_fee row
    · have other := governed.unregistered _ probed (kind_eq ▸ known)
      have unpaid : x.kind ∉ paying := fun member => known (paying_registered _ member)
      rw [if_neg unpaid, Except.ok.inj (decoded.symm.trans other)]
      rfl
  · rfl

end Content

namespace Operation

def fees (o : Operation) : List Int := o.contents.map (addend Content.fee?)

theorem totalFee_iff (o : Operation) (total : Amount) :
    o.totalFee = .ok total ↔ total.value = o.fees.sum ∧ ∀ k, Amount.InRange (o.fees.take k).sum :=
  sum_filterMap_iff

def statedFees (members : List (String × Value)) : List Int :=
  (listed "contents" members).map fun item => Content.statedFee item.sorted

theorem addends_of_each {items : List Value} {contents : List Content}
    (each : List.Forall₂ (fun item x => Content.family.decoder.ofValue item = .ok x) items contents) :
    contents.map (addend Content.fee?) = items.map fun item => Content.statedFee item.sorted := by
  induction each with
  | nil => rfl
  | cons found _ ih =>
    rw [ofValue, Content.family.decoder_ofValue Source.value_boundless] at found
    rw [List.map_cons, List.map_cons, Content.addend_fee found, ih]

theorem fees_of_decoded {members : List (String × Value)} {o : Operation}
    (decoded : decoder.ofValue (.object members) = .ok o) : o.fees = statedFees members := by
  obtain ⟨contents, entry, rfl⟩ := decoder_shows_contents members o decoded
  obtain ⟨_, each⟩ := entry_wholly Content.family.wholly_list nofun entry
  exact addends_of_each each

/-- Whatever operation an object is decoded to, its total is the sum of the fees that the object states,
and there is one unless a sum on the way leaves the range. -/
theorem total_fee_exact {members : List (String × Value)} {o : Operation}
    (decoded : decoder.ofValue (.object members) = .ok o) (total : Amount) :
    o.totalFee = .ok total ↔
      total.value = (statedFees members).sum ∧ ∀ k, Amount.InRange ((statedFees members).take k).sum := by
  rw [totalFee_iff, fees_of_decoded decoded]

/-- Four kinds pay; of a kind that nobody knows the fee does not count. -/
theorem total_fee_of_five :
    ∃ members o total, decoder.ofValue (.object members) = .ok o ∧ o.totalFee = .ok total ∧
      total.value = -7 ∧ statedFees members = [12, 0, 0, -20, 1] ∧
      ∀ k, Amount.InRange ((statedFees members).take k).sum := by
  let members : List (String × Value) := [("contents", .array [
    .object [("fee", .string " 12 "), ("kind", .string "delegation"), ("source", .string "a")],
    .object [("fee", .string "100"), ("kind", .string "mystery")],
    .object [("fee", .null), ("kind", .string "reveal"), ("public_key", .string "b"),
      ("source", .string "a")],
    .object [("amount", .string "5"), ("destination", .string "c"), ("fee", .string "-20"),
      ("kind", .string "transaction"), ("source", .string "a")],
    .object [("balance", .string "3"), ("fee", .string "+1"), ("kind", .string "origination"),
      ("source", .string "a")]])]
  obtain ⟨o, decoded⟩ : ∃ o, decoder.ofValue (.object members) = .ok o := ⟨_, rfl⟩
  have stated : statedFees members = [12, 0, 0, -20, 1] := by decide
  have paid : o.totalFee = .ok ⟨-7, by decide, by decide⟩ := by
    cases decoded
    rfl
  obtain ⟨sum, inRange⟩ := (total_fee_exact decoded _).mp paid
  exact ⟨members, o, _, decoded, paid, sum.trans (by rw [stated]; rfl), stated, inRange⟩

end Operation

end TezosNode
