import TezosNode.Json.Value

namespace TezosNode.Json

def Ordered (members : List (String × Value)) : Prop := members.Pairwise fun a b => a.1 < b.1

theorem lookup_member {α : Type} (key k : String) (a : α) (members : List (String × α)) :
    ((k, a) :: members).lookup key = if key = k then some a else members.lookup key := by
  rw [List.lookup_cons]
  by_cases same : key = k
  · simp [same]
  · rw [if_neg same, beq_eq_false_iff_ne.mpr same]

theorem lookup_of_not_mem {α : Type} {members : List (String × α)} {key : String}
    (missing : key ∉ members.map (·.1)) : members.lookup key = none := by
  rw [List.lookup_eq_none_iff]
  intro member present
  have other : key ≠ member.1 := fun same =>
    missing (same ▸ List.mem_map.mpr ⟨member, present, rfl⟩)
  simpa using other

theorem Ordered.nodup {members : List (String × Value)} (ordered : Ordered members) :
    (members.map (·.1)).Nodup := by
  rw [List.nodup_iff_pairwise_ne, List.pairwise_map]
  refine List.Pairwise.imp ?_ ordered
  intro a b less same
  exact String.lt_irrefl _ (same ▸ less)

theorem Ordered.head {key : String} {value : Value} {members : List (String × Value)}
    (ordered : Ordered ((key, value) :: members)) : ∀ member ∈ members, key < member.1 :=
  (List.pairwise_cons.mp ordered).1

theorem Ordered.tail {member : String × Value} {members : List (String × Value)}
    (ordered : Ordered (member :: members)) : Ordered members := (List.pairwise_cons.mp ordered).2

theorem Ordered.lookup_head {key : String} {value : Value} {members : List (String × Value)}
    (ordered : Ordered ((key, value) :: members)) : members.lookup key = none := by
  apply lookup_of_not_mem
  intro present
  obtain ⟨member, inside, same⟩ := List.mem_map.mp present
  exact String.lt_irrefl _ (same ▸ ordered.head member inside)

theorem mem_insertMember {key : String} {value : Value} {members : List (String × Value)}
    {member : String × Value} (present : member ∈ insertMember key value members) :
    member = (key, value) ∨ member ∈ members := by
  induction members with
  | nil => simpa [insertMember] using present
  | cons first members ih =>
    rw [insertMember] at present
    split at present
    · simpa using present
    · split at present
      · rcases List.mem_cons.mp present with same | later
        · exact .inl same
        · exact .inr (List.mem_cons_of_mem _ later)
      · rcases List.mem_cons.mp present with same | later
        · exact .inr (by simp [same])
        · exact (ih later).imp id (List.mem_cons_of_mem _)

theorem Ordered.insertMember {members : List (String × Value)} (ordered : Ordered members)
    (key : String) (value : Value) : Ordered (insertMember key value members) := by
  induction members with
  | nil => exact List.pairwise_singleton _ _
  | cons first members ih =>
    obtain ⟨k, v⟩ := first
    rw [Json.insertMember]
    split
    · next less =>
      refine List.pairwise_cons.mpr ⟨fun member present => ?_, ordered⟩
      rcases List.mem_cons.mp present with rfl | later
      · exact less
      · exact String.lt_trans less (ordered.head member later)
    · next notLess =>
      split
      · next same =>
        subst same
        exact List.pairwise_cons.mpr ⟨ordered.head, ordered.tail⟩
      · next other =>
        refine List.pairwise_cons.mpr ⟨fun member present => ?_, ih ordered.tail⟩
        rcases mem_insertMember present with rfl | later
        · have least := String.not_lt.mp notLess
          exact Decidable.byContradiction fun notGreater =>
            other (String.le_antisymm (String.not_lt.mp notGreater) least)
        · exact ordered.head member later

theorem lookup_insertMember (key : String) (value : Value) (members : List (String × Value))
    (wanted : String) :
    (insertMember key value members).lookup wanted =
      if wanted = key then some value else members.lookup wanted := by
  induction members with
  | nil => exact lookup_member wanted key value []
  | cons first members ih =>
    obtain ⟨k, v⟩ := first
    rw [insertMember]
    split
    · exact lookup_member wanted key value _
    · split
      · next same =>
        subst same
        rw [lookup_member, lookup_member]
        by_cases same : wanted = key <;> simp [same]
      · next other =>
        rw [lookup_member, lookup_member, ih]
        by_cases first : wanted = k
        · simp [first, Ne.symm other]
        · simp [first]

theorem insertMember_last {key : String} {value : Value} {members : List (String × Value)}
    (past : ∀ member ∈ members, member.1 < key) :
    insertMember key value members = members ++ [(key, value)] := by
  induction members with
  | nil => rfl
  | cons first members ih =>
    obtain ⟨k, v⟩ := first
    have less : k < key := past (k, v) (by simp)
    have other : key ≠ k := fun same => String.lt_irrefl _ (same ▸ less)
    rw [insertMember, if_neg (String.lt_asymm less), if_neg other,
      ih fun member present => past member (List.mem_cons_of_mem _ present), List.cons_append]

def insertAll (sorted members : List (String × Value)) : List (String × Value) :=
  members.foldl (fun sorted member => insertMember member.1 member.2 sorted) sorted

theorem sortMembers_eq (members : List (String × Value)) : sortMembers members = insertAll [] members :=
  rfl

theorem Ordered.insertAll {sorted : List (String × Value)} (ordered : Ordered sorted)
    (members : List (String × Value)) : Ordered (insertAll sorted members) := by
  induction members generalizing sorted with
  | nil => exact ordered
  | cons member members ih => exact ih (ordered.insertMember member.1 member.2)

theorem ordered_sortMembers (members : List (String × Value)) : Ordered (sortMembers members) :=
  Ordered.insertAll .nil members

theorem mem_insertAll {sorted members : List (String × Value)} {member : String × Value}
    (present : member ∈ insertAll sorted members) : member ∈ members ∨ member ∈ sorted := by
  induction members generalizing sorted with
  | nil => exact .inr present
  | cons first members ih =>
    rcases ih present with later | now
    · exact .inl (List.mem_cons_of_mem _ later)
    · rcases mem_insertMember now with rfl | before
      · exact .inl (by simp)
      · exact .inr before

theorem mem_sortMembers {members : List (String × Value)} {member : String × Value}
    (present : member ∈ sortMembers members) : member ∈ members := by
  simpa using mem_insertAll present

theorem lookup_insertAll {sorted members : List (String × Value)}
    (nodup : (members.map (·.1)).Nodup) (key : String) :
    (insertAll sorted members).lookup key = (members.lookup key).or (sorted.lookup key) := by
  induction members generalizing sorted with
  | nil => rfl
  | cons first members ih =>
    obtain ⟨k, v⟩ := first
    rw [List.map_cons, List.nodup_cons] at nodup
    rw [insertAll, List.foldl_cons, ← insertAll, ih nodup.2, lookup_insertMember, lookup_member]
    by_cases same : key = k
    · subst same
      simp [lookup_of_not_mem nodup.1]
    · simp [same]

/-- Where no key occurs twice, the same is found under every key. -/
theorem lookup_sortMembers {members : List (String × Value)} (nodup : (members.map (·.1)).Nodup)
    (key : String) : (sortMembers members).lookup key = members.lookup key := by
  rw [sortMembers_eq, lookup_insertAll nodup, List.lookup_nil, Option.or_none]

theorem insertAll_of_ordered {sorted members : List (String × Value)}
    (ordered : Ordered (sorted ++ members)) : insertAll sorted members = sorted ++ members := by
  induction members generalizing sorted with
  | nil => simp [insertAll]
  | cons member members ih =>
    have past : ∀ other ∈ sorted, other.1 < member.1 := fun other present =>
      (List.pairwise_append.mp ordered).2.2 other present member (by simp)
    have whole : Ordered ((sorted ++ [member]) ++ members) := by simpa using ordered
    rw [insertAll, List.foldl_cons, ← insertAll, insertMember_last past, ih whole]
    simp

theorem sortMembers_of_ordered {members : List (String × Value)} (ordered : Ordered members) :
    sortMembers members = members := insertAll_of_ordered ordered

theorem mem_of_lookup {α : Type} {members : List (String × α)} {key : String} {a : α}
    (found : members.lookup key = some a) : (key, a) ∈ members := by
  obtain ⟨front, back, rfl, _⟩ := List.lookup_eq_some_iff.mp found
  simp

theorem Ordered.least {k key : String} {v value : Value} {members : List (String × Value)}
    (ordered : Ordered ((k, v) :: members))
    (found : ((k, v) :: members).lookup key = some value) : k ≤ key := by
  rcases List.mem_cons.mp (mem_of_lookup found) with same | later
  · cases same
    exact String.le_refl _
  · exact String.not_lt.mp (String.lt_asymm (ordered.head _ later))

/-- Ordered members are known by what is found under the keys. -/
theorem Ordered.ext {front back : List (String × Value)} (first : Ordered front)
    (second : Ordered back) (same : ∀ key, front.lookup key = back.lookup key) : front = back := by
  induction front generalizing back with
  | nil =>
    cases back with
    | nil => rfl
    | cons other back =>
      have found := same other.1
      rw [lookup_member, if_pos rfl] at found
      cases found
  | cons member front ih =>
    obtain ⟨k, v⟩ := member
    cases back with
    | nil =>
      have found := same k
      rw [lookup_member, if_pos rfl] at found
      cases found
    | cons other back =>
      obtain ⟨k', v'⟩ := other
      -- the least key of each is found in the other
      have here : ((k', v') :: back).lookup k = some v := by
        rw [← same, lookup_member, if_pos rfl]
      have there : ((k, v) :: front).lookup k' = some v' := by
        rw [same, lookup_member, if_pos rfl]
      have keys : k = k' := String.le_antisymm (first.least there) (second.least here)
      subst keys
      have found := same k
      rw [lookup_member, lookup_member, if_pos rfl, if_pos rfl, Option.some.injEq] at found
      rw [found, ih first.tail second.tail fun key => ?_]
      have others := same key
      rw [lookup_member, lookup_member] at others
      by_cases this : key = k
      · rw [this, first.lookup_head, second.lookup_head]
      · simpa [this] using others

namespace Value

theorem sortedItems_eq_map (items : List Value) : sortedItems items = items.map sorted := by
  induction items with
  | nil => rfl
  | cons item items ih => rw [sortedItems, ih, List.map_cons]

theorem sortedValues_eq_map (members : List (String × Value)) :
    sortedValues members = members.map fun member => (member.1, member.2.sorted) := by
  induction members with
  | nil => rfl
  | cons member members ih =>
    obtain ⟨key, value⟩ := member
    rw [sortedValues, ih, List.map_cons]

theorem keys_sortedValues (members : List (String × Value)) :
    (sortedValues members).map (·.1) = members.map (·.1) := by
  simp [sortedValues_eq_map]

theorem lookup_sortedValues (members : List (String × Value)) (key : String) :
    (sortedValues members).lookup key = (members.lookup key).map sorted := by
  induction members with
  | nil => rfl
  | cons member members ih =>
    obtain ⟨k, v⟩ := member
    rw [sortedValues, lookup_member, lookup_member, ih]
    split <;> rfl

theorem sortedValues_of_sorted {members : List (String × Value)}
    (all : ∀ member ∈ members, member.2.sorted = member.2) : sortedValues members = members := by
  calc
    sortedValues members = members.map fun member => (member.1, member.2.sorted) :=
      sortedValues_eq_map members
    _ = members.map id := List.map_congr_left fun member present => Prod.ext rfl (all member present)
    _ = members := List.map_id _

theorem sorted_sortMembers {members : List (String × Value)}
    (all : ∀ member ∈ members, member.2.sorted = member.2) :
    (object (sortMembers members)).sorted = object (sortMembers members) := by
  have values : sortedValues (sortMembers members) = sortMembers members :=
    sortedValues_of_sorted fun member present => all member (mem_sortMembers present)
  rw [sorted, values, sortMembers_of_ordered (ordered_sortMembers _)]

mutual

theorem sorted_sorted (v : Value) : v.sorted.sorted = v.sorted := by
  cases v with
  | array items => rw [sorted, sorted, sortedItems_sorted items]
  | object members =>
    rw [sorted]
    exact sorted_sortMembers (sortedValues_sorted members)
  | _ => rfl

theorem sortedItems_sorted (items : List Value) :
    sortedItems (sortedItems items) = sortedItems items := by
  cases items with
  | nil => rfl
  | cons item items =>
    rw [sortedItems, sortedItems, sorted_sorted item, sortedItems_sorted items]

theorem sortedValues_sorted (members : List (String × Value)) :
    ∀ member ∈ sortedValues members, member.2.sorted = member.2 := by
  cases members with
  | nil => exact nofun
  | cons first members =>
    obtain ⟨key, value⟩ := first
    intro member present
    rcases List.mem_cons.mp present with rfl | later
    · exact sorted_sorted value
    · exact sortedValues_sorted members member later

end

theorem sorted_array_iff {items : List Value} :
    (array items).sorted = array items ↔ ∀ item ∈ items, item.sorted = item := by
  rw [sorted, array.injEq, sortedItems_eq_map]
  constructor
  · intro same
    exact List.map_inj_left.mp (same.trans (List.map_id items).symm)
  · intro all
    exact (List.map_inj_left.mpr all).trans (List.map_id items)

theorem sorted_object_iff {members : List (String × Value)} :
    (object members).sorted = object members ↔
      Ordered members ∧ ∀ member ∈ members, member.2.sorted = member.2 := by
  rw [sorted, object.injEq]
  constructor
  · intro same
    refine ⟨same ▸ ordered_sortMembers _, fun member present => ?_⟩
    rw [← same] at present
    exact sortedValues_sorted members member (mem_sortMembers present)
  · rintro ⟨ordered, all⟩
    rw [sortedValues_of_sorted all, sortMembers_of_ordered ordered]

theorem sorted_array_exchange {front back : List Value} {v w : Value} (same : v.sorted = v)
    (sorted : (array (front ++ w :: back)).sorted = array (front ++ w :: back)) :
    (array (front ++ v :: back)).sorted = array (front ++ v :: back) := by
  rw [sorted_array_iff] at sorted ⊢
  intro item present
  rcases List.mem_append.mp present with before | later
  · exact sorted item (List.mem_append_left _ before)
  · rcases List.mem_cons.mp later with rfl | after
    · exact same
    · exact sorted item (by simp [after])

theorem sorted_object_exchange {front back : List (String × Value)} {key : String} {v w : Value}
    (same : v.sorted = v)
    (sorted : (object (front ++ (key, w) :: back)).sorted = object (front ++ (key, w) :: back)) :
    (object (front ++ (key, v) :: back)).sorted = object (front ++ (key, v) :: back) := by
  rw [sorted_object_iff] at sorted ⊢
  obtain ⟨ordered, values⟩ := sorted
  constructor
  · have keys : ((front ++ (key, v) :: back).map (·.1)).Pairwise (· < ·) := by
      have before : ((front ++ (key, w) :: back).map (·.1)).Pairwise (· < ·) :=
        List.pairwise_map.mpr ordered
      simpa using before
    exact List.pairwise_map.mp keys
  · intro member present
    rcases List.mem_append.mp present with before | later
    · exact values member (List.mem_append_left _ before)
    · rcases List.mem_cons.mp later with rfl | after
      · exact same
      · exact values member (by simp [after])

end Value

end TezosNode.Json
