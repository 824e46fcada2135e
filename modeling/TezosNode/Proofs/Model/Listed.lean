import TezosNode.Proofs.Decode.Entries
import TezosNode.Proofs.Model.Growth

/-!
What the families take that is no object. The shared fields may come as a list, in their order, and where
the tag is not registered they are all that is looked at; every registered record has to be an object.
-/

namespace TezosNode

open Decode Json

namespace Decode

variable {α β γ : Type}

class Decoder.ObjectsOnly (d : Decoder α) : Prop where
  refuses : ∀ v : Value, (∀ members, v ≠ .object members) → ∃ fault, d.ofValue v = .error fault

instance (name : String) (own : Fields (β → α)) (rest : Decoder.Rest β) :
    (Decoder.flattened name own rest).ObjectsOnly := by
  constructor
  intro v other
  cases v with
  | object members => exact absurd rfl (other members)
  | _ => exact ⟨_, rfl⟩

instance (f : α → β) (d : Decoder α) [d.ObjectsOnly] : (d.map f).ObjectsOnly := by
  constructor
  intro v other
  obtain ⟨fault, refused⟩ := Decoder.ObjectsOnly.refuses (d := d) v other
  refine ⟨fault, ?_⟩
  rw [Decoder.ofValue] at refused
  simp only [Decoder.ofValue, Decoder.map, refused]
  rfl

theorem record_array_iff {name : String} {f : Fields α} {items : List Value} {a : α} :
    (Decoder.record name f).ofValue (.array items) = .ok a ↔
      f.take .value (fun n => .wrongLength n (.fields name f.names.length)) (items.map .ofValue) .closed =
        .ok (a, []) := by
  rw [Decoder.ofValue, Decoder.record_items name f Source.value_boundless]
  cases f.take .value _ (items.map Document.ofValue) .closed with
  | error fault => exact ⟨nofun, nofun⟩
  | ok taken =>
    obtain ⟨b, rest⟩ := taken
    cases rest with
    | nil => simp [bind, Except.bind, pure, Except.pure]
    | cons item rest => simp [bind, Except.bind]

theorem Fields.take_make_iff {value a : α} {source : Source} {short : Nat → Fault}
    {items rest : List Document} {ending : ListEnd} :
    (Fields.make value).take source short items ending = .ok (a, rest) ↔ a = value ∧ items = rest := by
  simp [Fields.make, eq_comm]

theorem Fields.take_required_iff {f : Fields (β → α)} {name : String} {d : Decoder β} {source : Source}
    {short : Nat → Fault} {items rest : List Document} {ending : ListEnd} {a : α} :
    (f.required name d).take source short items ending = .ok (a, rest) ↔
      ∃ make item b, f.take source short items ending = .ok (make, item :: rest) ∧
        d.decode source item = .ok b ∧ a = make b := by
  constructor
  · intro done
    obtain ⟨⟨make, left⟩, taken, done⟩ := bind_ok done
    cases left with
    | nil =>
      obtain ⟨_, _, done⟩ := bind_ok done
      cases done
    | cons item left =>
      obtain ⟨b, found, done⟩ := bind_ok done
      cases done
      exact ⟨make, item, b, taken, found, rfl⟩
  · rintro ⟨make, item, b, taken, found, rfl⟩
    simp [Fields.required, Fields.field, taken, found, bind, Except.bind, pure, Except.pure]

theorem quotedInt64_decode_iff {w : Value} {change : Int64} :
    Decoder.quotedInt64.decode .value (.ofValue w) = .ok change ↔
      ∃ s n, w = .string s ∧ Text.readInt64 s = .ok n ∧ change = .ofInt n := by
  rw [Decoder.quotedInt64, fromText_decode_iff]
  constructor
  · rintro ⟨s, rfl, accepted⟩
    obtain ⟨n, found, rfl⟩ := map_ok accepted
    exact ⟨s, n, rfl, mapError_ok found, rfl⟩
  · rintro ⟨s, n, rfl, known, rfl⟩
    refine ⟨s, rfl, ?_⟩
    rw [known]
    rfl

theorem record_text_array_iff {name key : String} {make : String → γ} {tag : γ → String}
    (told : ∀ s, tag (make s) = s) (whole : ∀ c, make (tag c) = c) {items : List Value} {c : γ} :
    (Decoder.record name ((Fields.make make).required key Decoder.text)).ofValue (.array items) = .ok c ↔
      items = [.string (tag c)] := by
  rw [record_array_iff, Fields.take_required_iff]
  constructor
  · rintro ⟨_, item, s, taken, read, rfl⟩
    obtain ⟨rfl, one⟩ := Fields.take_make_iff.mp taken
    obtain ⟨v, rfl, rfl⟩ := List.map_eq_singleton_iff.mp one
    rw [text_decode_iff.mp read, told]
  · rintro rfl
    exact ⟨make, .ofValue (.string (tag c)), tag c, rfl, rfl, (whole c).symm⟩

namespace Family

def Tagged (key tag : String) (v : Value) : Prop :=
  ∃ members, v = .object members ∧ members.lookup key = some (.string tag)

/-- A list of shared fields with a tag that is not registered, and what it is read as. -/
def Sequenced (family : Family γ α) (listed : γ → List Value → Prop) (v : Value) (x : α) : Prop :=
  ∃ items c, v = .array items ∧ listed c items ∧ family.tag c ∉ family.names ∧ x = family.other c

/-- What a family makes of a value: it takes an object with a tag that is a string, and a list of the
shared fields where the tag is not registered. A list of members has to be a list of such values. -/
structure Takes (family : Family γ α) (key : String) (tagOf : α → String)
    (listed : γ → List Value → Prop) (v : Value) : Prop where
  decoded : ∀ x, family.ofValue v = .ok x → Tagged key (tagOf x) v ∨ family.Sequenced listed v x
  sequenced : ∀ x, family.Sequenced listed v x → family.ofValue v = .ok x
  elements : ∀ xs, family.listOfValue v = .ok xs ↔
    ∃ items, v = .array items ∧ List.Forall₂ (fun item x => family.ofValue item = .ok x) items xs

theorem array_iff {family : Family γ α} {listed : γ → List Value → Prop}
    (members : ∀ row ∈ family.members, row.2.ObjectsOnly)
    (common : ∀ items c, family.common.ofValue (.array items) = .ok c ↔ listed c items)
    (items : List Value) (x : α) : family.ofValue (.array items) = .ok x ↔
      ∃ c, listed c items ∧ family.tag c ∉ family.names ∧ x = family.other c := by
  constructor
  · intro decoded
    obtain ⟨c, probed, decoded⟩ := bind_ok decoded
    cases found : family.lookup? (family.tag c) with
    | none =>
      have unknown : family.tag c ∉ family.names := by
        rw [← family.lookup?_isSome, found]
        exact nofun
      rw [found] at decoded
      exact ⟨c, (common items c).mp probed, unknown, (Except.ok.inj decoded).symm⟩
    | some d =>
      -- a registered record is no list
      obtain ⟨row, there, rfl⟩ := Option.map_eq_some_iff.mp found
      have only := members row (List.mem_of_find?_eq_some there)
      obtain ⟨fault, refused⟩ := only.refuses (.array items) nofun
      rw [found] at decoded
      cases refused.symm.trans decoded
  · rintro ⟨c, known, unknown, rfl⟩
    have probed := (common items c).mpr known
    simp [ofValue, probed, family.lookup?_of_not_mem unknown, bind, Except.bind, pure, Except.pure]

theorem elements_iff {family : Family γ α} {v : Value} {xs : List α} :
    family.listOfValue v = .ok xs ↔
      ∃ items, v = .array items ∧ List.Forall₂ (fun item x => family.ofValue item = .ok x) items xs := by
  constructor
  · intro decoded
    cases v with
    | array items => exact ⟨items, rfl, elementsFrom_iff.mp decoded⟩
    | _ => cases decoded
  · rintro ⟨items, rfl, each⟩
    exact elementsFrom_iff.mpr each

theorem takes {family : Family γ α} {name key : String} {fields : Fields γ} {shared : α → γ}
    {tagOf : α → String} {own? : α → Option String} {variant? : Value → String → Option (Except Fault α)}
    {listed : γ → List Value → Prop} (shares : family.common = Decoder.record name fields)
    (governed : ∀ v, family.Governed shared tagOf own? (variant? v) v)
    (told : ∀ members c, family.common.ofValue (.object members) = .ok c →
      members.lookup key = some (.string (family.tag c)))
    (members : ∀ row ∈ family.members, row.2.ObjectsOnly)
    (common : ∀ items c, family.common.ofValue (.array items) = .ok c ↔ listed c items) (v : Value) :
    family.Takes key tagOf listed v where
  decoded := by
    intro x decoded
    cases v with
    | object pairs =>
      obtain ⟨probed, tagged, _⟩ := (governed (.object pairs)).told x decoded
      exact .inl ⟨pairs, rfl, tagged ▸ told pairs (shared x) probed⟩
    | array items =>
      obtain ⟨c, known, unknown, same⟩ := (array_iff members common items x).mp decoded
      exact .inr ⟨items, c, rfl, known, unknown, same⟩
    | _ =>
      obtain ⟨c, probed, _⟩ := bind_ok decoded
      rw [shares] at probed
      cases probed
  sequenced := by
    rintro x ⟨items, c, rfl, known⟩
    exact (array_iff members common items x).mpr ⟨c, known⟩
  elements := fun _ => elements_iff

end Family

theorem objectsOnly_of_flattened (name : String) (own : Fields (γ → β)) (part : Fields γ) (f : β → α) :
    ((Decoder.flattened name own (.fields part)).map f).ObjectsOnly := inferInstance

end Decode

namespace Content

def Listed (c : Common) (items : List Value) : Prop :=
  items = [.string c.kind]

theorem family_takes (v : Value) : family.Takes "kind" kind Listed v := by
  apply Family.takes rfl family_governed Common.told
  · intro row member
    simp only [family, List.mem_cons, List.not_mem_nil, or_false] at member
    rcases member with rfl | rfl | rfl | rfl | rfl | rfl | rfl | rfl | rfl | rfl | rfl
    all_goals apply objectsOnly_of_flattened
  · exact fun items c => record_text_array_iff (fun _ => rfl) fun _ => rfl

end Content

namespace TestChain

def Listed (c : Common) (items : List Value) : Prop :=
  items = [.string c.status]

theorem family_takes (v : Value) : family.Takes "status" status Listed v := by
  apply Family.takes rfl family_governed Common.told
  · intro row member
    simp only [family, List.mem_cons, List.not_mem_nil, or_false] at member
    rcases member with rfl | rfl | rfl
    all_goals apply objectsOnly_of_flattened
  · exact fun items c => record_text_array_iff (fun _ => rfl) fun _ => rfl

end TestChain

namespace BalanceUpdate

def Listed (c : Common) (items : List Value) : Prop :=
  ∃ s n, items = [.string c.kind, .string s] ∧ Text.readInt64 s = .ok n ∧ c.change = .ofInt n

theorem Common.array_iff (items : List Value) (c : Common) :
    Common.decoder.ofValue (.array items) = .ok c ↔ Listed c items := by
  rw [Common.decoder, Common.fields, record_array_iff, Fields.take_required_iff]
  constructor
  · rintro ⟨_, second, change, taken, found, rfl⟩
    obtain ⟨_, first, kind, begun, read, rfl⟩ := Fields.take_required_iff.mp taken
    obtain ⟨rfl, both⟩ := Fields.take_make_iff.mp begun
    obtain ⟨v, others, rfl, rfl, one⟩ := List.map_eq_cons_iff.mp both
    obtain ⟨w, rfl, rfl⟩ := List.map_eq_singleton_iff.mp one
    obtain ⟨s, n, rfl, known, same⟩ := quotedInt64_decode_iff.mp found
    exact ⟨s, n, by rw [text_decode_iff.mp read], known, same⟩
  · rintro ⟨s, n, rfl, known, same⟩
    have change := quotedInt64_decode_iff.mpr ⟨s, n, rfl, known, same⟩
    exact ⟨Common.mk c.kind, .ofValue (.string s), c.change, rfl, change, rfl⟩

theorem family_takes (v : Value) : family.Takes "kind" kind Listed v := by
  apply Family.takes rfl family_governed Common.told _ Common.array_iff
  intro row member
  simp only [family, List.mem_cons, List.not_mem_nil, or_false] at member
  rcases member with rfl | rfl
  all_goals apply objectsOnly_of_flattened

end BalanceUpdate

/-- What each family takes of all values: objects with a tag, and lists of the shared fields of a record
that is not registered. -/
theorem objects_or_listed (v : Value) :
    BalanceUpdate.family.Takes "kind" BalanceUpdate.kind BalanceUpdate.Listed v ∧
      Content.family.Takes "kind" Content.kind Content.Listed v ∧
      TestChain.family.Takes "status" TestChain.status TestChain.Listed v :=
  ⟨BalanceUpdate.family_takes v, Content.family_takes v, TestChain.family_takes v⟩

/-- Lists are decoded, but not those of a registered record. -/
theorem lists_decoded :
    Content.family.ofValue (.array [.string "mystery"]) = .ok (.other ⟨"mystery"⟩) ∧
      BalanceUpdate.family.ofValue (.array [.string "burned", .string "4"]) = .ok (.other ⟨"burned", 4⟩) ∧
      TestChain.family.ofValue (.array [.string "paused"]) = .ok (.other ⟨"paused"⟩) ∧
      Content.family.listOfValue (.array [.array [.string "mystery"]]) = .ok [.other ⟨"mystery"⟩] ∧
      Content.family.ofValue (.array [.string "endorsement"]) =
        .error (.wrongType .sequence (.record "EndorsementOperationElem")) := by
  refine ⟨rfl, rfl, rfl, rfl, rfl⟩

end TezosNode
