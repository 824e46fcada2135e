import Mathlib.Data.List.Forall2
import TezosNode.Proofs.Decode.Leftovers

namespace TezosNode.Decode

open Json

theorem mapM_ok_iff {β γ : Type} {f : β → Except Fault γ} {bs : List β} {cs : List γ} :
    bs.mapM f = .ok cs ↔ List.Forall₂ (fun b c => f b = .ok c) bs cs := by
  induction bs generalizing cs with
  | nil =>
    rw [List.forall₂_nil_left_iff]
    constructor
    · intro done
      cases done
      rfl
    · rintro rfl
      rfl
  | cons b bs ih =>
    rw [List.mapM_cons, List.forall₂_cons_left_iff]
    constructor
    · intro done
      obtain ⟨first, found, done⟩ := bind_ok done
      obtain ⟨others, rest, done⟩ := bind_ok done
      cases done
      exact ⟨first, others, found, ih.mp rest, rfl⟩
    · rintro ⟨first, others, found, rest, rfl⟩
      rw [found, ih.mpr rest]
      rfl

namespace Fields

variable {α β : Type}

/-- What stands under a name changes the slot from one state to another: nothing leaves it as it is,
and one document that is decoded fills it if it was empty. -/
inductive Fits (d : Decoder β) (source : Source) (name : String) :
    Option β → List (String × Document) → Option β → Prop where
  | absent {slot : Option β} : Fits d source name slot [] slot
  | present {document : Document} {b : β} : d.decode source document = .ok b →
      Fits d source name none [(name, document)] (some b)

section

variable {f : Fields (β → α)} {name : String} {d : Decoder β} {absent : Option β} {source : Source}
  {slots filled : f.Slots} {members : List (String × Document)}

theorem fill_field_stop {key : String} {document : Document} {fault : Fault} (other : key ≠ name)
    (put : f.put source slots key document = some (.error fault)) (slot : Option β) :
    (f.field name d absent).fill source (slots, slot) ((key, document) :: members) = .error fault := by
  exact fill_stop _ (put_field_other other put slot) members

theorem fill_field_again (document : Document) (b : β) :
    (f.field name d absent).fill source (slots, some b) ((name, document) :: members) =
      .error (.duplicateField name) := by
  exact fill_stop _ (put_field_again document b) members

theorem fill_field_fault {document : Document} {fault : Fault}
    (decoded : d.decode source document = .error fault) :
    (f.field name d absent).fill source (slots, none) ((name, document) :: members) =
      .error fault := by
  exact fill_stop _ (put_field_same decoded) members

theorem fill_field_here {document : Document} {b : β} (decoded : d.decode source document = .ok b) :
    (f.field name d absent).fill source (slots, none) ((name, document) :: members) =
      (f.field name d absent).fill source (slots, some b) members := by
  exact fill_next _ (put_field_same decoded) members

theorem fill_field_iff [f.Lawful] (fresh : name ∉ f.names) {before after : Option β} :
    (f.field name d absent).fill source (slots, before) members = .ok (filled, after) ↔
      f.fill source slots members = .ok filled ∧
        Fits d source name before (members.filter (·.1 = name)) after := by
  induction members generalizing slots before with
  | nil =>
    constructor
    · intro done
      cases done
      exact ⟨rfl, .absent⟩
    · rintro ⟨done, fits⟩
      cases done
      cases fits
      rfl
  | cons member members ih =>
    obtain ⟨key, document⟩ := member
    by_cases same : key = name
    · subst same
      rw [List.filter_cons_of_pos (by simp), fill_skip f (put_of_not_mem f fresh ..)]
      cases before with
      | some b =>
        rw [fill_field_again]
        refine ⟨nofun, fun ⟨_, fits⟩ => ?_⟩
        cases fits
      | none =>
        cases decoded : d.decode source document with
        | error fault =>
          rw [fill_field_fault decoded]
          refine ⟨nofun, fun ⟨_, fits⟩ => ?_⟩
          -- the members behind as a variable, so that `fits` can be taken apart
          generalize members.filter (·.1 = key) = others at fits
          cases fits with
          | present found => cases decoded.symm.trans found
        | ok b =>
          rw [fill_field_here decoded, ih]
          generalize members.filter (·.1 = key) = others
          refine and_congr_right fun _ => ⟨fun fits => ?_, fun fits => ?_⟩
          · cases fits
            exact .present decoded
          · cases fits with
            | present found =>
              cases decoded.symm.trans found
              exact .absent
    · rw [List.filter_cons_of_neg (by simpa using same)]
      cases put : f.put source slots key document with
      | none =>
        rw [fill_field_skip same put, fill_skip f put]
        exact ih
      | some result =>
        cases result with
        | ok next =>
          rw [fill_field_next same put, fill_next f put]
          exact ih
        | error fault =>
          rw [fill_field_stop same put, fill_stop f put]
          exact ⟨nofun, fun ⟨done, _⟩ => nomatch done⟩

end

theorem fits_some_iff {d : Decoder β} {source : Source} {name : String}
    {members : List (String × Value)} {b : β} :
    Fits d source name none ((buffered members).filter (·.1 = name)) (some b) ↔
      ∃ v, members.filter (·.1 = name) = [(name, v)] ∧ d.decode source (.ofValue v) = .ok b := by
  have same : (buffered members).filter (·.1 = name) = buffered (members.filter (·.1 = name)) := by
    rw [buffered, List.filter_map]
    rfl
  rw [same]
  generalize members.filter (·.1 = name) = found
  constructor
  · intro fits
    rcases found with _ | ⟨⟨key, v⟩, _ | ⟨second, others⟩⟩
    · cases fits
    · cases fits with
      | present decoded => exact ⟨v, rfl, decoded⟩
    · cases fits
  · rintro ⟨v, rfl, decoded⟩
    exact .present decoded

end Fields

theorem lookup_of_filter {members : List (String × Value)} {name : String} {v : Value}
    (stands : members.filter (·.1 = name) = [(name, v)]) : members.lookup name = some v := by
  induction members with
  | nil => cases stands
  | cons member members ih =>
    obtain ⟨key, w⟩ := member
    rw [lookup_member]
    by_cases same : key = name
    · rw [List.filter_cons_of_pos (by simpa using same)] at stands
      rw [if_pos same.symm, (Prod.mk.inj (List.cons.inj stands).1).2]
    · rw [List.filter_cons_of_neg (by simpa using same)] at stands
      rw [if_neg (Ne.symm same)]
      exact ih stands

theorem reverse_lookup_of_filter {members : List (String × Value)} {name : String} {v : Value}
    (stands : members.filter (·.1 = name) = [(name, v)]) : members.reverse.lookup name = some v := by
  apply lookup_of_filter
  rw [List.filter_reverse, stands]
  rfl

theorem lookup_insertAll_last (sorted members : List (String × Value)) (key : String) :
    (insertAll sorted members).lookup key = (members.reverse.lookup key).or (sorted.lookup key) := by
  induction members generalizing sorted with
  | nil => rfl
  | cons first members ih =>
    obtain ⟨k, v⟩ := first
    rw [insertAll, List.foldl_cons, ← insertAll, ih, lookup_insertMember, List.reverse_cons,
      List.lookup_append, lookup_member, List.lookup_nil, Option.or_assoc]
    by_cases same : key = k
    · rw [if_pos same, if_pos same, Option.some_or]
    · rw [if_neg same, if_neg same, Option.none_or]

/-- Sorting keeps the last member of each key. -/
theorem lookup_sortMembers_last (members : List (String × Value)) (key : String) :
    (sortMembers members).lookup key = members.reverse.lookup key := by
  rw [sortMembers_eq, lookup_insertAll_last, List.lookup_nil, Option.or_none]

theorem lookup_sorted (members : List (String × Value)) (key : String) :
    (sortMembers (Value.sortedValues members)).lookup key = (members.reverse.lookup key).map Value.sorted := by
  rw [lookup_sortMembers_last, Value.sortedValues_eq_map, ← List.map_reverse, ← Value.sortedValues_eq_map,
    Value.lookup_sortedValues]

theorem lookup_leftover (names : List String) (members : List (String × Value)) (key : String) :
    (sortMembers (Value.sortedValues (members.filter (·.1 ∉ names)))).lookup key =
      if key ∈ names then none else (members.reverse.lookup key).map Value.sorted := by
  rw [lookup_sorted, ← List.filter_reverse, lookup_filter]
  split <;> rfl

end TezosNode.Decode
