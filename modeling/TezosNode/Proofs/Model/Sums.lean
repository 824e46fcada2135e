import Mathlib.Algebra.Order.BigOperators.Group.List
import Mathlib.Algebra.Order.Ring.Int
import TezosNode.Model.Amount

/-!
Two ways to add up amounts. One adds words and stops at an overflow, the other one adds integers and checks
the range. Each step comes to the same in both, so both fail exactly where a sum on the way is no amount. Of
amounts of one sign the sum of all is the farthest from zero, so their order makes no difference.
-/

namespace TezosNode

namespace Amount

def InRange (n : Int) : Prop := -limit ≤ n ∧ n < limit

theorem inRange_value (a : Amount) : InRange a.value := ⟨a.low, a.high⟩

theorem eq_of_value {a b : Amount} (same : a.value = b.value) : a = b := by
  cases a
  cases b
  cases same
  rfl

theorem exists_add?_iff {a b : Amount} : (∃ c, add? a b = some c) ↔ InRange (a.value + b.value) := by
  constructor
  · rintro ⟨c, sum⟩
    rw [← add?_eq_some_iff.mp sum]
    exact c.inRange_value
  · rintro ⟨low, high⟩
    exact ⟨⟨a.value + b.value, low, high⟩, add?_eq_some_iff.mpr rfl⟩

theorem exists_sum_iff {ns : List Int} :
    (∃ total : Amount, total.value = ns.sum ∧ ∀ k, InRange (ns.take k).sum) ↔
      ∀ k, InRange (ns.take k).sum := by
  constructor
  · rintro ⟨_, _, all⟩
    exact all
  · intro all
    have whole := all ns.length
    rw [List.take_length] at whole
    exact ⟨⟨ns.sum, whole.1, whole.2⟩, rfl, all⟩

theorem toInt_word (a : Amount) : a.word.toInt = a.value :=
  BitVec.toInt_ofInt_eq_self (by decide) a.low a.high

theorem saddOverflow_iff (a b : Amount) :
    a.word.saddOverflow b.word = true ↔ ¬InRange (a.value + b.value) := by
  have bound : (2 : Int) ^ (128 - 1) = limit := rfl
  rw [BitVec.saddOverflow, toInt_word, toInt_word, bound, InRange]
  simp only [Bool.or_eq_true, decide_eq_true_eq]
  omega

theorem add_eq (a b : Amount) : add a b = (add? a b).elim (.error .overflow) .ok := by
  by_cases ranges : InRange (a.value + b.value)
  · have fits : ¬a.word.saddOverflow b.word = true := fun excess => (saddOverflow_iff a b).mp excess ranges
    have whole : (a.word + b.word).toInt = a.value + b.value := by
      rw [BitVec.toInt_add_of_not_saddOverflow fits, toInt_word, toInt_word]
    have checked : add? a b = some (ofWord (a.word + b.word)) := add?_eq_some_iff.mpr whole
    rw [add, if_neg fits, checked]
    rfl
  · have excess := (saddOverflow_iff a b).mpr ranges
    have checked : add? a b = none := by
      rw [Option.eq_none_iff_forall_ne_some]
      exact fun c found => ranges (exists_add?_iff.mp ⟨c, found⟩)
    rw [add, if_pos excess, checked]
    rfl

theorem foldlM_add (amounts : List Amount) (start : Amount) :
    amounts.foldlM add start = (amounts.foldlM add? start).elim (.error .overflow) .ok := by
  induction amounts generalizing start with
  | nil => rfl
  | cons a amounts ih =>
    rw [List.foldlM_cons, List.foldlM_cons, add_eq]
    cases add? start a with
    | none => rfl
    | some next => exact ih next

def sum? (amounts : List Amount) : Option Amount := amounts.foldlM add? zero

theorem sum_eq (amounts : List Amount) : sum amounts = (sum? amounts).elim (.error .overflow) .ok :=
  foldlM_add amounts zero

theorem sum_eq_ok_iff {total : Amount} : sum amounts = .ok total ↔ sum? amounts = some total := by
  rw [sum_eq]
  cases sum? amounts <;> simp

theorem sum_eq_error_iff : sum amounts = .error .overflow ↔ sum? amounts = none := by
  rw [sum_eq]
  cases sum? amounts <;> simp

end Amount

section

variable {β : Type} {amount? : β → Option Amount}

def addend (amount? : β → Option Amount) (b : β) : Int := ((amount? b).map Amount.value).getD 0

def InRangeFrom (start : Int) (ns : List Int) : Prop := ∀ k, Amount.InRange (start + (ns.take k).sum)

theorem inRangeFrom_cons_iff {start n : Int} {ns : List Int} :
    InRangeFrom start (n :: ns) ↔ Amount.InRange start ∧ InRangeFrom (start + n) ns := by
  constructor
  · intro all
    refine ⟨by simpa using all 0, fun k => ?_⟩
    have next := all (k + 1)
    rwa [List.take_succ_cons, List.sum_cons, ← Int.add_assoc] at next
  · rintro ⟨first, rest⟩ k
    cases k with
    | zero => simpa using first
    | succ k =>
      rw [List.take_succ_cons, List.sum_cons, ← Int.add_assoc]
      exact rest k

theorem InRangeFrom.start {start : Int} {ns : List Int} (all : InRangeFrom start ns) : Amount.InRange start := by
  simpa using all 0

theorem foldlM_add?_iff {bs : List β} {start total : Amount} :
    (bs.filterMap amount?).foldlM Amount.add? start = some total ↔
      total.value = start.value + (bs.map (addend amount?)).sum ∧
        InRangeFrom start.value (bs.map (addend amount?)) := by
  induction bs generalizing start with
  | nil =>
    rw [List.filterMap_nil, List.foldlM_nil, List.map_nil, List.sum_nil, Int.add_zero]
    constructor
    · intro same
      cases same
      exact ⟨rfl, fun k => by simpa using total.inRange_value⟩
    · rintro ⟨same, _⟩
      exact congrArg some (Amount.eq_of_value same.symm)
  | cons b bs ih =>
    rw [List.map_cons, List.sum_cons, inRangeFrom_cons_iff, ← Int.add_assoc]
    cases known : amount? b with
    | none =>
      have nothing : addend amount? b = 0 := by rw [addend, known]; rfl
      rw [List.filterMap_cons_none known, nothing, Int.add_zero, ih]
      exact and_congr_right fun _ => (and_iff_right start.inRange_value).symm
    | some a =>
      have adds : addend amount? b = a.value := by rw [addend, known]; rfl
      rw [List.filterMap_cons_some known, List.foldlM_cons, adds]
      cases sum : Amount.add? start a with
      | none =>
        -- the bound at the first item excludes an overflow there
        constructor
        · exact nofun
        · rintro ⟨_, _, rest⟩
          obtain ⟨c, found⟩ := Amount.exists_add?_iff.mpr rest.start
          cases sum.symm.trans found
      | some next =>
        rw [← Amount.add?_eq_some_iff.mp sum]
        change (bs.filterMap amount?).foldlM Amount.add? next = some total ↔ _
        rw [ih]
        exact and_congr_right fun _ => (and_iff_right start.inRange_value).symm

/-- There is a sum if none on the way leaves the range, and it is that of the integers. -/
theorem sum_filterMap_iff {bs : List β} {total : Amount} :
    Amount.sum (bs.filterMap amount?) = .ok total ↔ total.value = (bs.map (addend amount?)).sum ∧
      ∀ k, Amount.InRange ((bs.map (addend amount?)).take k).sum := by
  rw [Amount.sum_eq_ok_iff, Amount.sum?, foldlM_add?_iff]
  simp only [InRangeFrom, Amount.zero, Int.zero_add]

end

namespace Amount

variable {amounts : List Amount}

theorem sum?_eq_some_iff {total : Amount} :
    sum? amounts = some total ↔ total.value = (amounts.map value).sum ∧
      ∀ k, InRange ((amounts.map value).take k).sum := by
  have each := @sum_filterMap_iff Amount some amounts total
  rw [List.filterMap_some] at each
  exact sum_eq_ok_iff.symm.trans each

theorem sum?_eq_none_iff :
    sum? amounts = none ↔ ∃ k, ¬InRange ((amounts.map value).take k).sum := by
  rw [← not_forall, ← exists_sum_iff, Option.eq_none_iff_forall_ne_some, not_exists]
  simp only [ne_eq, sum?_eq_some_iff]

def OneSign (ns : List Int) : Prop := (∀ n ∈ ns, 0 ≤ n) ∨ ∀ n ∈ ns, n ≤ 0

/-- The sums on the way lie between zero and the whole sum. -/
theorem OneSign.inRange_take {ns : List Int} (sign : OneSign ns) (whole : InRange ns.sum) (k : Nat) :
    InRange (ns.take k).sum := by
  obtain ⟨low, high⟩ := whole
  have split := List.sum_take_add_sum_drop ns k
  have small : -(limit : Int) ≤ 0 ∧ (0 : Int) < limit := by decide
  rcases sign with sign | sign
  · have front : 0 ≤ (ns.take k).sum := List.sum_nonneg fun n member => sign n (List.mem_of_mem_take member)
    have back : 0 ≤ (ns.drop k).sum := List.sum_nonneg fun n member => sign n (List.mem_of_mem_drop member)
    constructor <;> omega
  · have front := List.sum_le_card_nsmul (ns.take k) 0 fun n member => sign n (List.mem_of_mem_take member)
    have back := List.sum_le_card_nsmul (ns.drop k) 0 fun n member => sign n (List.mem_of_mem_drop member)
    rw [nsmul_zero] at front back
    constructor <;> omega

theorem sum?_of_oneSign (sign : OneSign (amounts.map value)) :
    sum? amounts = ofInt? (amounts.map value).sum := by
  ext total
  rw [sum?_eq_some_iff, ofInt?_eq_some_iff]
  constructor
  · exact fun found => found.1
  · intro same
    exact ⟨same, sign.inRange_take (same ▸ total.inRange_value)⟩

theorem sum?_perm {others : List Amount} (sign : OneSign (amounts.map value))
    (perm : others.Perm amounts) : sum? others = sum? amounts := by
  have same := perm.map value
  have signs : OneSign (others.map value) :=
    sign.imp (fun all n member => all n (same.subset member)) (fun all n member => all n (same.subset member))
  rw [sum?_of_oneSign sign, sum?_of_oneSign signs, same.sum_eq]

/-- Added up as words or with a check, amounts come to the same. There is a sum exactly where the check gives
one, and it is that of the integers. An addition overflows exactly where the check fails, which is where a sum
on the way is no amount. If no two amounts have opposite signs, their order makes no difference. -/
theorem sum_as_checked (amounts : List Amount) :
    (∀ total, sum amounts = .ok total ↔ amounts.foldlM add? zero = some total) ∧
      (∀ total, sum amounts = .ok total → total.value = (amounts.map value).sum) ∧
      (sum amounts = .error .overflow ↔ amounts.foldlM add? zero = none) ∧
      (sum amounts = .error .overflow ↔ ∃ k, ¬InRange ((amounts.map value).take k).sum) ∧
      (OneSign (amounts.map value) → ∀ others, others.Perm amounts → sum others = sum amounts) := by
  refine ⟨fun total => sum_eq_ok_iff, fun total found => ?whole, sum_eq_error_iff, ?leaves, ?order⟩
  case whole => exact (sum?_eq_some_iff.mp (sum_eq_ok_iff.mp found)).1
  case leaves => exact sum_eq_error_iff.trans sum?_eq_none_iff
  case order =>
    intro sign others perm
    rw [sum_eq, sum_eq, sum?_perm sign perm]

/-- The greatest amount, nothing, and one more: an overflow in every order. -/
theorem sum_as_checked_greatest :
    let amounts : List Amount := [⟨limit - 1, by decide, by decide⟩, zero, ⟨1, by decide, by decide⟩]
    OneSign (amounts.map value) ∧
      ∀ others, others.Perm amounts → sum others = .error .overflow := by
  intro amounts
  have sign : OneSign (amounts.map value) := .inl (by decide)
  have excess : sum amounts = .error .overflow := by rfl
  refine ⟨sign, fun others perm => ?_⟩
  obtain ⟨_, _, _, _, order⟩ := sum_as_checked amounts
  exact (order sign others perm).trans excess

example :
    let most : Amount := ⟨limit - 1, by decide, by decide⟩
    let one : Amount := ⟨1, by decide, by decide⟩
    let less : Amount := ⟨-1, by decide, by decide⟩
    sum [most, one, less] = .error .overflow ∧ sum [most, less, one] = .ok most := ⟨rfl, rfl⟩

end Amount

end TezosNode
