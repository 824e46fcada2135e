import TezosNode.Proofs.Json.Sorting

namespace TezosNode.Json.Value

mutual

def depth : Value → Nat
  | .array items => itemsDepth items + 1
  | .object members => membersDepth members + 1
  | _ => 0

def itemsDepth : List Value → Nat
  | [] => 0
  | item :: items => max item.depth (itemsDepth items)

def membersDepth : List (String × Value) → Nat
  | [] => 0
  | (_, value) :: members => max value.depth (membersDepth members)

end

theorem depth_le_itemsDepth {items : List Value} {item : Value} (member : item ∈ items) :
    item.depth ≤ itemsDepth items := by
  induction items with
  | nil => cases member
  | cons first items ih =>
    rw [itemsDepth]
    rcases List.mem_cons.mp member with rfl | later
    · exact Nat.le_max_left _ _
    · exact Nat.le_trans (ih later) (Nat.le_max_right _ _)

theorem depth_le_membersDepth {members : List (String × Value)} {key : String} {value : Value}
    (member : (key, value) ∈ members) : value.depth ≤ membersDepth members := by
  induction members with
  | nil => cases member
  | cons first members ih =>
    rw [membersDepth]
    rcases List.mem_cons.mp member with rfl | later
    · exact Nat.le_max_left _ _
    · exact Nat.le_trans (ih later) (Nat.le_max_right _ _)

theorem membersDepth_le {members : List (String × Value)} {bound : Nat}
    (all : ∀ member ∈ members, member.2.depth ≤ bound) : membersDepth members ≤ bound := by
  induction members with
  | nil => exact Nat.zero_le _
  | cons member members ih =>
    exact Nat.max_le.mpr ⟨all member (by simp), ih fun other present => all other (by simp [present])⟩

mutual

theorem depth_sorted_le (v : Value) : v.sorted.depth ≤ v.depth := by
  cases v with
  | array items => exact Nat.succ_le_succ (depth_sortedItems_le items)
  | object members =>
    refine Nat.succ_le_succ (membersDepth_le fun member present => ?_)
    exact Nat.le_trans (depth_le_membersDepth (mem_sortMembers present))
      (depth_sortedValues_le members)
  | _ => exact Nat.le_refl _

theorem depth_sortedItems_le (items : List Value) :
    itemsDepth (sortedItems items) ≤ itemsDepth items := by
  cases items with
  | nil => exact Nat.le_refl _
  | cons item items =>
    have first := depth_sorted_le item
    have others := depth_sortedItems_le items
    simp only [sortedItems, itemsDepth]
    omega

theorem depth_sortedValues_le (members : List (String × Value)) :
    membersDepth (sortedValues members) ≤ membersDepth members := by
  cases members with
  | nil => exact Nat.le_refl _
  | cons member members =>
    have first := depth_sorted_le member.2
    have others := depth_sortedValues_le members
    simp only [sortedValues, membersDepth]
    omega

end

end TezosNode.Json.Value
