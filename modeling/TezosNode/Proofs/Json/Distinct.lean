import TezosNode.Json.Document
import TezosNode.Proofs.Json.Sorting

namespace TezosNode.Json

theorem insertMember_perm {key : String} (value : Value) {members : List (String × Value)}
    (fresh : ∀ member ∈ members, member.1 ≠ key) :
    (insertMember key value members).Perm ((key, value) :: members) := by
  induction members with
  | nil => exact .refl _
  | cons first members ih =>
    obtain ⟨k, v⟩ := first
    have other : key ≠ k := Ne.symm (fresh (k, v) (by simp))
    rw [insertMember, if_neg other]
    split
    · exact .refl _
    · have rest := ih fun member present => fresh member (List.mem_cons_of_mem _ present)
      exact (rest.cons (k, v)).trans (List.Perm.swap (key, value) (k, v) members)

theorem insertAll_perm {sorted members : List (String × Value)}
    (nodup : ((members ++ sorted).map (·.1)).Nodup) :
    (insertAll sorted members).Perm (members ++ sorted) := by
  induction members generalizing sorted with
  | nil => exact .refl _
  | cons first members ih =>
    obtain ⟨key, value⟩ := first
    rw [List.cons_append, List.map_cons, List.nodup_cons] at nodup
    have fresh : ∀ member ∈ sorted, member.1 ≠ key := by
      intro member present same
      exact nodup.1 (List.mem_map.mpr ⟨member, List.mem_append_right _ present, same⟩)
    have put := insertMember_perm value fresh
    have moved : (members ++ insertMember key value sorted).Perm ((key, value) :: (members ++ sorted)) :=
      (put.append_left members).trans List.perm_middle
    have again : ((members ++ insertMember key value sorted).map (·.1)).Nodup := by
      rw [(moved.map (·.1)).nodup_iff, List.map_cons, List.nodup_cons]
      exact nodup
    rw [insertAll, List.foldl_cons, ← insertAll]
    exact (ih again).trans moved

theorem sortMembers_perm {members : List (String × Value)} (nodup : (members.map (·.1)).Nodup) :
    (sortMembers members).Perm members := by
  have all : (insertAll [] members).Perm (members ++ []) :=
    insertAll_perm (by rwa [List.append_nil])
  rwa [List.append_nil] at all

namespace Document

mutual

/-- No object in the document repeats a key. -/
def Distinct : Document → Prop
  | .array items _ => ItemsDistinct items
  | .object members _ =>
    members.Pairwise (fun a b => a.1.text ≠ b.1.text) ∧ MembersDistinct members
  | _ => True

def ItemsDistinct : List Document → Prop
  | [] => True
  | item :: items => item.Distinct ∧ ItemsDistinct items

def MembersDistinct : List (Literal × Document) → Prop
  | [] => True
  | (_, value) :: members => value.Distinct ∧ MembersDistinct members

end

theorem itemsDistinct_iff {items : List Document} :
    ItemsDistinct items ↔ ∀ item ∈ items, item.Distinct := by
  induction items with
  | nil => simp [ItemsDistinct]
  | cons item items ih => simp [ItemsDistinct, ih]

theorem membersDistinct_iff {members : List (Literal × Document)} :
    MembersDistinct members ↔ ∀ member ∈ members, member.2.Distinct := by
  induction members with
  | nil => simp [MembersDistinct]
  | cons member members ih => simp [MembersDistinct, ih]

end Document

namespace Value

def Distinct (v : Value) : Prop := (Document.ofValue v).Distinct

theorem distinct_array_iff {items : List Value} :
    (array items).Distinct ↔ ∀ item ∈ items, item.Distinct := by
  simp [Distinct, Document.ofValue, Document.Distinct, Document.itemsDistinct_iff,
    Document.ofItems_eq_map]

theorem distinct_object_iff {members : List (String × Value)} :
    (object members).Distinct ↔
      (members.map (·.1)).Nodup ∧ ∀ member ∈ members, member.2.Distinct := by
  have keys : (Document.ofMembers members).Pairwise (fun a b => a.1.text ≠ b.1.text) ↔
      (members.map (·.1)).Nodup := by
    rw [Document.ofMembers_eq_map, List.pairwise_map, List.nodup_iff_pairwise_ne, List.pairwise_map]
    simp [Literal.ofString]
  have values : Document.MembersDistinct (Document.ofMembers members) ↔
      ∀ member ∈ members, member.2.Distinct := by
    rw [Document.membersDistinct_iff, Document.ofMembers_eq_map, List.forall_mem_map]
    rfl
  rw [Distinct, Document.ofValue, Document.Distinct, keys, values]

mutual

theorem distinct_sorted (v : Value) (distinct : v.Distinct) : v.sorted.Distinct := by
  cases v with
  | array items =>
    rw [distinct_array_iff] at distinct
    rw [sorted, distinct_array_iff]
    exact distinct_sortedItems items distinct
  | object members =>
    rw [distinct_object_iff] at distinct
    rw [sorted, distinct_object_iff]
    refine ⟨(ordered_sortMembers _).nodup, fun member present => ?_⟩
    exact distinct_sortedValues members distinct.2 member (mem_sortMembers present)
  | _ => trivial

theorem distinct_sortedItems (items : List Value) (distinct : ∀ item ∈ items, item.Distinct) :
    ∀ item ∈ sortedItems items, item.Distinct := by
  cases items with
  | nil => exact nofun
  | cons item items =>
    intro other present
    rcases List.mem_cons.mp present with rfl | later
    · exact distinct_sorted item (distinct item (by simp))
    · exact distinct_sortedItems items (fun one there => distinct one (by simp [there])) other later

theorem distinct_sortedValues (members : List (String × Value))
    (distinct : ∀ member ∈ members, member.2.Distinct) :
    ∀ member ∈ sortedValues members, member.2.Distinct := by
  cases members with
  | nil => exact nofun
  | cons first members =>
    obtain ⟨key, value⟩ := first
    intro member present
    rcases List.mem_cons.mp present with rfl | later
    · exact distinct_sorted value (distinct (key, value) (by simp))
    · exact distinct_sortedValues members (fun one there => distinct one (by simp [there])) member later

end

end Value

end TezosNode.Json
