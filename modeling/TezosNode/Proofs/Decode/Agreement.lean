import TezosNode.Proofs.Decode.Commuting
import TezosNode.Proofs.Decode.Families
import TezosNode.Proofs.Decode.Leftovers
import TezosNode.Proofs.Decode.Transcription
import TezosNode.Proofs.Json.Distinct

/-!
Two ways to decode a text: as it is read, or as a value that was read before, whose members are sorted.
Where no object repeats a key they agree, in whether there is a result and in what it is. A decoder
made of decoders that agree agrees.
-/

namespace TezosNode.Decode

open Json

/-- Where nothing in a value is repeated, decoding it as it is written and decoding it as a sorted value
give the same result or both none. -/
class Decoder.Agrees {α : Type} (d : Decoder α) : Prop where
  agrees : ∀ (source : Source) (v : Value), v.Distinct → source.Allows v.depth →
    (d.decode source (.ofValue v)).toOption = (d.ofValue v.sorted).toOption

namespace Decoder

variable {α β : Type}

theorem agrees_of_steady (d : Decoder α) [Steady d]
    (array : ∀ items, (d.ofValue (.array items)).toOption = none)
    (object : ∀ members, (d.ofValue (.object members)).toOption = none) : Agrees d := by
  constructor
  intro source v _ _
  rw [Steady.decode_eq]
  cases v with
  | array items => exact (array _).trans (array _).symm
  | object members => exact (object _).trans (object _).symm
  | _ => rfl

instance (wanted : Wanted) : Steady (textFor wanted) := ⟨fun _ _ => rfl⟩

instance : Steady bool := ⟨fun _ _ => rfl⟩

instance (kind : String) (low high : Int) : Steady (integer kind low high) := ⟨fun _ _ => rfl⟩

instance (wanted : Wanted) : Agrees (textFor wanted) :=
  agrees_of_steady _ (fun _ => rfl) (fun _ => rfl)

instance : Agrees text := inferInstanceAs (Agrees (textFor .text))

instance : Agrees bool := agrees_of_steady _ (fun _ => rfl) (fun _ => rfl)

instance (kind : String) (low high : Int) : Agrees (integer kind low high) :=
  agrees_of_steady _ (fun _ => rfl) (fun _ => rfl)

instance : Agrees any := by
  constructor
  intro source v _ allows
  have inner : Source.value.Allows v.sorted.depth := trivial
  rw [any, ofValue]
  simp only [anyValue_ofValue v allows, anyValue_ofValue v.sorted inner, Value.sorted_sorted]

instance (f : α → β) (d : Decoder α) [Agrees d] : Agrees (d.map f) := by
  constructor
  intro source v distinct allows
  have same := Agrees.agrees (d := d) source v distinct allows
  change ((d.decode source (.ofValue v)).map f).toOption = ((d.ofValue v.sorted).map f).toOption
  rw [toOption_map, toOption_map, same]

instance (f : α → Except Fault β) (d : Decoder α) [Agrees d] : Agrees (d.refine f) := by
  constructor
  intro source v distinct allows
  have same := Agrees.agrees (d := d) source v distinct allows
  change ((d.decode source (.ofValue v)) >>= f).toOption = ((d.ofValue v.sorted) >>= f).toOption
  rw [toOption_bind, toOption_bind, same]

instance (d : Decoder α) [Agrees d] : Agrees d.option := by
  constructor
  intro source v distinct allows
  have same := Agrees.agrees (d := d) source v distinct allows
  by_cases absent : v = .null
  · subst absent
    rfl
  · have stays : v.sorted ≠ .null := by cases v <;> simp_all [Value.sorted]
    have written : Document.ofValue v ≠ .null := ofValue_ne_null absent
    have sorted : Document.ofValue v.sorted ≠ .null := ofValue_ne_null stays
    rw [ofValue, option_decode written, option_decode sorted, toOption_map, toOption_map, same]
    rfl

theorem mapM_agrees (d : Decoder α) [Agrees d] (source : Source) (items : List Value)
    (distinct : ∀ item ∈ items, item.Distinct) (allows : source.Allows (Value.itemsDepth items)) :
    ((Document.ofItems items).mapM (d.decode source)).toOption =
      ((Document.ofItems (Value.sortedItems items)).mapM (d.decode .value)).toOption := by
  induction items with
  | nil => rfl
  | cons item items ih =>
    have first := Agrees.agrees (d := d) source item (distinct item (by simp))
      (allows.less (Nat.le_max_left _ _))
    have others := ih (fun other member => distinct other (by simp [member]))
      (allows.less (Nat.le_max_right _ _))
    rw [Value.sortedItems, Document.ofItems, Document.ofItems, List.mapM_cons, List.mapM_cons,
      toOption_bind, toOption_bind, first]
    simp only [toOption_bind, others]
    rfl

theorem list_array (d : Decoder α) {source inner : Source} (entered : source.enter = .ok inner)
    (items : List Value) :
    d.list.decode source (.ofValue (.array items)) =
      (Document.ofItems items).mapM (d.decode inner) := by
  rw [list, Document.ofValue]
  simp only [entered]
  change (do let items ← (Document.ofItems items).mapM (d.decode inner); _) = _
  cases (Document.ofItems items).mapM (d.decode inner) <;> rfl

instance (d : Decoder α) [Agrees d] : Agrees d.list := by
  constructor
  intro source v distinct allows
  cases v with
  | array items =>
    obtain ⟨inner, entered, room⟩ := allows.enter
    have same := mapM_agrees d inner items (Value.distinct_array_iff.mp distinct) room
    rw [list_array d entered, same, Value.sorted, ofValue, list_array d rfl]
  | _ => rfl

end Decoder

namespace Fields

variable {α β : Type}

/-- What two ways to take fields off a list come to: none, or the same with the same items left. -/
inductive Taken (items : List Value) : Option (α × List Document) → Option (α × List Document) → Prop
    where
  | refused : Taken items none none
  | taken {a : α} {rest : List Value} : rest <:+ items →
      Taken items (some (a, Document.ofItems rest)) (some (a, Document.ofItems (Value.sortedItems rest)))

class Agrees (f : Fields α) : Prop where
  put : ∀ (source : Source) (slots : f.Slots) (key : String) (v : Value), v.Distinct →
    source.Allows v.depth →
    f.add source (some slots) (key, .ofValue v) = f.add .value (some slots) (key, .ofValue v.sorted)
  take : ∀ (source : Source) (short : Nat → Fault) (items : List Value),
    (∀ item ∈ items, item.Distinct) → source.Allows (Value.itemsDepth items) →
    Taken items (f.take source short (Document.ofItems items) .closed).toOption
      (f.take .value short (Document.ofItems (Value.sortedItems items)) .closed).toOption

instance (value : α) : Agrees (make value) :=
  ⟨fun _ _ _ _ _ _ => rfl, fun _ _ _ _ _ => .taken List.suffix_rfl⟩

theorem allows_of_suffix {source : Source} {rest items : List Value} (suffix : rest <:+ items)
    (allows : source.Allows (Value.itemsDepth items)) : source.Allows (Value.itemsDepth rest) := by
  obtain ⟨front, rfl⟩ := suffix
  induction front with
  | nil => exact allows
  | cons item front ih => exact ih (allows.less (Nat.le_max_right _ _))

instance (f : Fields (β → α)) [Agrees f] (name : String) (d : Decoder β) [d.Agrees]
    (absent : Option β) : Agrees (f.field name d absent) := by
  constructor
  · rintro source ⟨slots, slot⟩ key v distinct allows
    by_cases same : key = name
    · cases slot with
      | some b => exact (add_field_full same b).trans (add_field_full same b).symm
      | none =>
        have decoded := Decoder.Agrees.agrees (d := d) source v distinct allows
        refine (add_field_fresh same).trans (Eq.trans ?_ (add_field_fresh same).symm)
        rw [decoded]
        rfl
    · have inner := Agrees.put (f := f) source slots key v distinct allows
      refine (add_field_other same).trans (Eq.trans ?_ (add_field_other same).symm)
      rw [inner]
  · intro source short items distinct allows
    have inner := Agrees.take (f := f) source short items distinct allows
    change Taken items (_ >>= _ : Except Fault _).toOption (_ >>= _ : Except Fault _).toOption
    rw [toOption_bind, toOption_bind]
    generalize (f.take source short (Document.ofItems items) .closed).toOption = first at *
    generalize (f.take .value short _ .closed).toOption = second at *
    cases inner with
    | refused => exact .refused
    | @taken g rest suffix =>
      cases rest with
      | nil =>
        cases absent with
        | none => exact .refused
        | some b => exact .taken List.nil_suffix
      | cons item rest =>
        have inside : item ∈ items := suffix.subset (by simp)
        have room := allows_of_suffix suffix allows
        have decoded := Decoder.Agrees.agrees (d := d) source item (distinct item inside)
          (room.less (Nat.le_max_left _ _))
        change Taken items (d.decode source (.ofValue item) >>= _ : Except Fault _).toOption
          (d.decode .value (.ofValue item.sorted) >>= _ : Except Fault _).toOption
        rw [toOption_bind, toOption_bind, decoded, Decoder.ofValue]
        cases (d.decode .value (.ofValue item.sorted)).toOption with
        | none => exact .refused
        | some b => exact .taken ((List.suffix_cons item rest).trans suffix)

instance (f : Fields (β → α)) [Agrees f] (name : String) (d : Decoder β) [d.Agrees] :
    Agrees (f.required name d) := inferInstanceAs (Agrees (f.field ..))

instance (f : Fields (β → α)) [Agrees f] (name : String) (d : Decoder β) [d.Agrees] (absent : β) :
    Agrees (f.orElse name d absent) := inferInstanceAs (Agrees (f.field ..))

instance (f : Fields (Option β → α)) [Agrees f] (name : String) (d : Decoder β) [d.Agrees] :
    Agrees (f.optional name d) := inferInstanceAs (Agrees (f.field ..))

theorem foldl_add_agrees (f : Fields α) [Agrees f] (source : Source) (slots? : Option f.Slots)
    (members : List (String × Value)) (distinct : ∀ member ∈ members, member.2.Distinct)
    (allows : source.Allows (Value.membersDepth members)) :
    (buffered members).foldl (f.add source) slots? =
      (buffered (Value.sortedValues members)).foldl (f.add .value) slots? := by
  induction members generalizing slots? with
  | nil => rfl
  | cons member members ih =>
    obtain ⟨key, v⟩ := member
    have first : f.add source slots? (key, .ofValue v) = f.add .value slots? (key, .ofValue v.sorted) := by
      cases slots? with
      | none => rfl
      | some slots =>
        exact Agrees.put source slots key v (distinct (key, v) (by simp))
          (allows.less (Nat.le_max_left _ _))
    rw [Value.sortedValues, buffered_cons, buffered_cons, List.foldl_cons, List.foldl_cons, first]
    exact ih _ (fun other present => distinct other (by simp [present]))
      (allows.less (Nat.le_max_right _ _))

theorem fill_agrees (f : Fields α) [Agrees f] [Commutes f] (source : Source) (slots : f.Slots)
    {members : List (String × Value)} (distinct : (Value.object members).Distinct)
    (allows : source.Allows (Value.membersDepth members)) :
    (f.fill source slots (buffered members)).toOption =
      (f.fill .value slots (buffered (sortMembers (Value.sortedValues members)))).toOption := by
  obtain ⟨keys, values⟩ := Value.distinct_object_iff.mp distinct
  have nodup : ((Value.sortedValues members).map (·.1)).Nodup := by rwa [Value.keys_sortedValues]
  have moved : (buffered (Value.sortedValues members)).Perm
      (buffered (sortMembers (Value.sortedValues members))) := (sortMembers_perm nodup).symm.map _
  calc
    (f.fill source slots (buffered members)).toOption =
        (f.fill .value slots (buffered (Value.sortedValues members))).toOption := by
      rw [fill_toOption, fill_toOption, foldl_add_agrees f source _ members values allows]
    _ = (f.fill .value slots (buffered (sortMembers (Value.sortedValues members)))).toOption :=
      fill_perm f .value slots moved (by rwa [keys_buffered])

end Fields

namespace Decoder

variable {α γ : Type}

theorem record_array (name : String) (f : Fields α) {source inner : Source}
    (entered : source.enter = .ok inner) (items : List Value) :
    ((record name f).decode source (.ofValue (.array items))).toOption =
      (f.take inner (fun n => .wrongLength n (.fields name f.names.length))
        (Document.ofItems items) .closed).toOption.bind fun taken =>
          if taken.2.isEmpty then some taken.1 else none := by
  rw [record, Document.ofValue]
  simp only [entered]
  change (f.take inner _ (Document.ofItems items) .closed >>= _ : Except Fault _).toOption = _
  rw [toOption_bind]
  cases (f.take inner _ (Document.ofItems items) .closed).toOption with
  | none => rfl
  | some taken =>
    obtain ⟨a, rest⟩ := taken
    cases rest <;> rfl

instance (name : String) (f : Fields α) [f.Agrees] [f.Commutes] : Agrees (record name f) := by
  constructor
  intro source v distinct allows
  cases v with
  | object members =>
    have deep : Source.value.Allows (Value.membersDepth (sortMembers (Value.sortedValues members)) + 1) :=
      trivial
    obtain ⟨inner, _, room, written⟩ := record_object name f members allows
    obtain ⟨_, entered, _, sorted⟩ := record_object name f _ deep
    cases entered
    rw [Value.sorted, ofValue, written, sorted]
    change (_ >>= f.finish).toOption = (_ >>= f.finish).toOption
    rw [toOption_bind, toOption_bind, f.fill_agrees inner f.blank distinct room]
  | array items =>
    obtain ⟨inner, entered, room⟩ := allows.enter
    have taken := Fields.Agrees.take (f := f) inner (fun n => .wrongLength n (.fields name f.names.length))
      items (Value.distinct_array_iff.mp distinct) room
    rw [record_array name f entered, Value.sorted, ofValue, record_array name f rfl]
    generalize (f.take inner _ (Document.ofItems items) .closed).toOption = first at *
    generalize (f.take .value _ _ .closed).toOption = second at *
    cases taken with
    | refused => rfl
    | @taken a rest _ => cases rest <;> rfl
  | _ => rfl

theorem Agrees.buffered (d : Decoder α) [Agrees d] {v : Value} (distinct : v.Distinct) :
    (d.decode .buffered (.ofValue v)).toOption = (d.decode .buffered (.ofValue v.sorted)).toOption := by
  have written := Agrees.agrees (d := d) .buffered v distinct trivial
  have sorted := Agrees.agrees (d := d) .buffered v.sorted (Value.distinct_sorted v distinct) trivial
  rw [v.sorted_sorted] at sorted
  exact written.trans sorted.symm

theorem fill_buffered (f : Fields α) [f.Agrees] [f.Commutes] (slots : f.Slots)
    {members : List (String × Value)} (distinct : (Value.object members).Distinct) :
    (f.fill .buffered slots (buffered members)).toOption =
      (f.fill .buffered slots (buffered (sortMembers (Value.sortedValues members)))).toOption := by
  have written := f.fill_agrees .buffered slots distinct trivial
  have sorted := f.fill_agrees .buffered slots (Value.distinct_sorted _ distinct) trivial
  have again : sortMembers (Value.sortedValues (sortMembers (Value.sortedValues members))) =
      sortMembers (Value.sortedValues members) :=
    Value.object.inj (Value.sorted_sorted (.object members))
  rw [again] at sorted
  exact written.trans sorted.symm

theorem agrees_flattened (name : String) (own : Fields (γ → α)) [own.Lawful] [own.Agrees] [own.Commutes]
    (part : Fields γ) [part.Lawful] [part.Agrees] [part.Commutes]
    (apart : ∀ key ∈ part.names, key ∉ own.names) : Agrees (flattened name own (.fields part)) := by
  constructor
  intro source v distinct allows
  cases v with
  | object members =>
    have deep : Source.value.Allows (Value.membersDepth (sortMembers (Value.sortedValues members)) + 1) :=
      trivial
    obtain ⟨inner, _, room, written⟩ := flattened_object name own part apart members allows
    obtain ⟨_, entered, _, sorted⟩ := flattened_object name own part apart _ deep
    cases entered
    rw [Value.sorted, ofValue, written, sorted]
    simp only [toOption_bind, own.fill_agrees inner own.blank distinct room,
      fill_buffered part part.blank distinct]
  | _ => rfl

theorem lookup_rest (names : List String) {members : List (String × Value)}
    (nodup : (members.map (·.1)).Nodup) (key : String) :
    (sortMembers (Value.sortedValues (members.filter (·.1 ∉ names)))).lookup key =
      if key ∈ names then none else (members.lookup key).map Value.sorted := by
  have left : ((members.filter (·.1 ∉ names)).map (·.1)).Nodup :=
    nodup.sublist ((List.filter_sublist ..).map _)
  rw [lookup_sortMembers (by rwa [Value.keys_sortedValues]), Value.lookup_sortedValues, lookup_filter]
  split <;> rfl

theorem rest_sorted (names : List String) {members : List (String × Value)}
    (nodup : (members.map (·.1)).Nodup) :
    sortMembers (Value.sortedValues (members.filter (·.1 ∉ names))) =
      sortMembers (Value.sortedValues
        ((sortMembers (Value.sortedValues members)).filter (·.1 ∉ names))) := by
  have keys : ((Value.sortedValues members).map (·.1)).Nodup := by rwa [Value.keys_sortedValues]
  refine (ordered_sortMembers _).ext (ordered_sortMembers _) fun key => ?_
  rw [lookup_rest names nodup, lookup_rest names (ordered_sortMembers _).nodup,
    lookup_sortMembers keys, Value.lookup_sortedValues]
  cases members.lookup key with
  | none => rfl
  | some v => simp only [Option.map_some, v.sorted_sorted]

instance (name : String) (own : Fields (List (String × Value) → α)) [own.Lawful] [own.Agrees]
    [own.Commutes] : Agrees (flattened name own .members) := by
  constructor
  intro source v distinct allows
  cases v with
  | object members =>
    obtain ⟨keys, _⟩ := Value.distinct_object_iff.mp distinct
    have deep : Source.value.Allows (Value.membersDepth (sortMembers (Value.sortedValues members)) + 1) :=
      trivial
    obtain ⟨inner, _, room, written⟩ := flattened_members name own members allows
    obtain ⟨_, entered, _, sorted⟩ := flattened_members name own _ deep
    cases entered
    rw [Value.sorted, ofValue, written, sorted]
    simp only [toOption_bind, own.fill_agrees inner own.blank distinct room,
      rest_sorted own.names keys]
  | _ => rfl

end Decoder

end TezosNode.Decode
