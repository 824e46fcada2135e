import TezosNode.Proofs.Decode.Sheets

namespace TezosNode.Decode
open Json
namespace Decoder
variable {α β γ : Type}
theorem anyValue_buffered (key : String) (value : Value) :
    (do pure (key, ← anyValue .buffered (.ofValue value)) : Except Fault (String × Value)) =
      .ok (key, value.sorted) := by
  have opened : Source.buffered.Allows value.depth := trivial
  rw [anyValue_ofValue value opened]
  rfl

theorem rest_members (members : List (String × Value)) :
    Rest.members.decode (buffered members) = .ok (sortMembers (Value.sortedValues members)) := by
  have values : (buffered members).mapM (fun member => do
      pure (member.1, ← anyValue .buffered member.2) : String × Document → Except Fault (String × Value)) =
      .ok (Value.sortedValues members) := by
    induction members with
    | nil => rfl
    | cons member members ih =>
      obtain ⟨key, value⟩ := member
      rw [buffered_cons, List.mapM_cons, ih]
      dsimp only
      rw [anyValue_buffered]
      rfl
  simp only [Rest.members, values]
  rfl

theorem filter_buffered (members : List (String × Value)) (names : List String) :
    (buffered members).filter (·.1 ∉ names) = buffered (members.filter (·.1 ∉ names)) := by
  rw [buffered, List.filter_map]
  rfl

theorem flattened_members (name : String) (own : Fields (List (String × Value) → α)) [own.Lawful]
    {source : Source} (members : List (String × Value))
    (allows : source.Allows (Value.membersDepth members + 1)) :
    ∃ inner, source.enter = .ok inner ∧ inner.Allows (Value.membersDepth members) ∧
      (flattened name own .members).decode source (.ofValue (.object members)) = (do
        let slots ← own.fill inner own.blank (buffered members)
        let make ← own.finish slots
        pure (make (sortMembers (Value.sortedValues (members.filter (·.1 ∉ own.names)))))) := by
  obtain ⟨inner, entered, room⟩ := allows.enter
  refine ⟨inner, entered, room, ?_⟩
  rw [flattened, Document.ofValue]
  simp only [entered]
  change ((own.putOwn inner own.blank (Document.ofMembers members)) >>= _) = _
  rw [own.putOwn_ofMembers own.blank members room]
  cases own.fill inner own.blank (buffered members) with
  | error fault => rfl
  | ok slots =>
    change (do let make ← own.finish slots; _) = (do let make ← own.finish slots; _)
    cases own.finish slots with
    | error fault => rfl
    | ok make =>
      change (do let part ← Rest.members.decode ((buffered members).filter (·.1 ∉ own.names)); _) = _
      rw [filter_buffered, rest_members]
      rfl
end Decoder

/-- Members that some fields leave over, as they are kept. -/
structure Leftover (names : List String) (extra : List (String × Value)) : Prop where
  ordered : Ordered extra
  others : ∀ member ∈ extra, member.1 ∉ names
  sorted : ∀ member ∈ extra, member.2.sorted = member.2

theorem putOwn_others {α : Type} {f : Fields α} [f.Lawful] {source : Source} {slots filled : f.Slots}
    {members : List (Literal × Document)} {others : List (String × Document)}
    (done : f.putOwn source slots members = .ok (filled, others)) :
    ∀ member ∈ others, member.1 ∉ f.names := by
  induction members generalizing slots others with
  | nil =>
    cases done
    exact nofun
  | cons member members ih =>
    obtain ⟨literal, document⟩ := member
    obtain ⟨key, _, done⟩ := bind_ok done
    cases put : f.put source slots key document with
    | none =>
      rw [put] at done
      obtain ⟨_, _, done⟩ := bind_ok done
      obtain ⟨⟨last, left⟩, rest, done⟩ := bind_ok done
      cases done
      intro member present
      rcases List.mem_cons.mp present with rfl | later
      · intro known
        obtain ⟨result, there⟩ := f.put_of_mem known source slots document
        cases put.symm.trans there
      · exact ih rest member later
    | some result =>
      rw [put] at done
      obtain ⟨next, rfl, done⟩ := bind_ok done
      exact ih done

theorem leftover_of_rest {names : List String} {others : List (String × Document)}
    {extra : List (String × Value)} (unknown : ∀ member ∈ others, member.1 ∉ names)
    (decoded : Decoder.Rest.members.decode others = .ok extra) : Leftover names extra := by
  obtain ⟨values, found, decoded⟩ := bind_ok decoded
  cases decoded
  have each (member) (present : member ∈ values) : member.1 ∉ names ∧ member.2.sorted = member.2 := by
    obtain ⟨⟨key, document⟩, there, read⟩ := Decoder.of_mapM_ok found present
    obtain ⟨v, value, read⟩ := bind_ok read
    cases read
    exact ⟨unknown _ there, anyValue_sorted document value⟩
  exact ⟨ordered_sortMembers _, fun member present => (each member (mem_sortMembers present)).1,
    fun member present => (each member (mem_sortMembers present)).2⟩

theorem lookup_filter (names : List String) (members : List (String × Value)) (key : String) :
    (members.filter (·.1 ∉ names)).lookup key = if key ∈ names then none else members.lookup key := by
  induction members with
  | nil => simp
  | cons member members ih =>
    obtain ⟨k, v⟩ := member
    by_cases known : k ∈ names
    · rw [List.filter_cons_of_neg (by simpa using known), ih, lookup_member]
      by_cases same : key = k
      · rw [same, if_pos known, if_pos known]
      · rw [if_neg same]
    · rw [List.filter_cons_of_pos (by simpa using known), lookup_member, lookup_member, ih]
      by_cases same : key = k
      · rw [if_pos same, if_pos same, same, if_neg known]
      · rw [if_neg same, if_neg same]

namespace Leftover

variable {names : List String} {front extra : List (String × Value)}

theorem nodup (leftover : Leftover names extra) (keys : front.map (·.1) = names)
    (distinct : names.Nodup) : ((front ++ extra).map (·.1)).Nodup := by
  rw [List.map_append, keys]
  refine List.nodup_append.mpr ⟨distinct, leftover.ordered.nodup, ?_⟩
  rintro key known _ there rfl
  obtain ⟨member, present, rfl⟩ := List.mem_map.mp there
  exact leftover.others member present known

theorem filter_members (leftover : Leftover names extra) (keys : front.map (·.1) = names)
    (distinct : names.Nodup) (form : Form) :
    sortMembers (Value.sortedValues ((form.members (front ++ extra)).filter (·.1 ∉ names))) = extra := by
  have nodup := leftover.nodup keys distinct
  have left : (((form.members (front ++ extra)).filter (·.1 ∉ names)).map (·.1)).Nodup :=
    (form.nodup_members nodup).sublist ((List.filter_sublist ..).map _)
  apply (ordered_sortMembers _).ext leftover.ordered
  intro key
  rw [lookup_sortMembers (by rwa [Value.keys_sortedValues]), Value.lookup_sortedValues, lookup_filter,
    form.lookup_members nodup, List.lookup_append]
  by_cases known : key ∈ names
  · have absent : extra.lookup key = none := by
      apply lookup_of_not_mem
      intro there
      obtain ⟨member, present, rfl⟩ := List.mem_map.mp there
      exact leftover.others member present known
    rw [if_pos known, absent]
    rfl
  · have missing : front.lookup key = none := lookup_of_not_mem (by rwa [keys])
    rw [if_neg known, missing, Option.none_or]
    cases found : extra.lookup key with
    | none => rfl
    | some v =>
      have same := leftover.sorted _ (mem_of_lookup found)
      change some (form.apply v).sorted = some v
      rw [form.sorted_apply, same]

end Leftover

namespace Decoder

variable {α : Type} {name : String} {own : Fields (List (String × Value) → α)} [own.Lawful]

theorem Reaches.members {P : α → Prop} {a : α} (reaches : (Decoder.flattened name own .members).Reaches a)
    (holds : own.Holds fun make => ∀ extra, Leftover own.names extra → P (make extra)) : P a := by
  obtain ⟨source, document, decoded⟩ := reaches
  cases document with
  | object members ending =>
    obtain ⟨inner, _, decoded⟩ := bind_ok decoded
    obtain ⟨⟨filled, others⟩, fills, decoded⟩ := bind_ok decoded
    obtain ⟨_, _, decoded⟩ := bind_ok decoded
    obtain ⟨make, made, decoded⟩ := bind_ok decoded
    obtain ⟨extra, rest, decoded⟩ := bind_ok decoded
    cases decoded
    have all := holds.filled filled make (.putOwn .blank fills) made
    exact all extra (leftover_of_rest (putOwn_others fills) rest)
  | _ => cases decoded

theorem keeps_members (front : List (String × Value)) {extra : List (String × Value)}
    {make : List (String × Value) → α} (name : String) (keys : front.map (·.1) = own.names)
    (distinct : own.names.Nodup)
    (leftover : Leftover own.names extra)
    (answers : own.Answers (Sheet.full (front ++ extra)) make) :
    (flattened name own .members).Keeps (.object (front ++ extra)) (make extra) := by
  intro form source allows
  have nodup : ((Sheet.full (front ++ extra)).map (·.1)).Nodup := by
    rw [Sheet.full, List.map_map]
    exact leftover.nodup keys distinct
  have deep : source.Allows (Value.membersDepth (form.members (front ++ extra)) + 1) :=
    allows.less (Nat.succ_le_succ (form.membersDepth_le _))
  obtain ⟨inner, entered, _, whole⟩ := flattened_members name own _ deep
  obtain ⟨inner', entered', room⟩ := allows.enter
  cases entered.symm.trans entered'
  rw [← Sheet.members_full (front ++ extra)] at room
  obtain ⟨filled, fills, finished⟩ := fill_of_answers nodup distinct answers form room
  rw [Sheet.members_full] at fills
  rw [form.apply_object, whole, fills]
  change (do let make ← own.finish filled; _) = _
  rw [finished, leftover.filter_members keys distinct form]
  rfl

end Decoder

end TezosNode.Decode
