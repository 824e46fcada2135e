import Mathlib.Data.List.Forall2
import TezosNode.Decode.Elements
import TezosNode.Proofs.Json.Depth
import TezosNode.Proofs.Outcome

namespace TezosNode.Decode

open Json

/-- Values are decoded in order if each is decoded on its own: the index shows in faults alone. -/
theorem elementsFrom_iff {α : Type} {decode : Value → Except Fault α} {index : Nat}
    {values : List Value} {as : List α} :
    elementsFrom index decode values = .ok as ↔
      List.Forall₂ (fun v a => decode v = .ok a) values as := by
  induction values generalizing index as with
  | nil =>
    rw [elementsFrom, List.forall₂_nil_left_iff, Except.ok.injEq]
    exact eq_comm
  | cons value values ih =>
    rw [elementsFrom, List.forall₂_cons_left_iff]
    constructor
    · intro done
      obtain ⟨first, found, done⟩ := bind_ok done
      obtain ⟨others, rest, done⟩ := bind_ok done
      cases done
      exact ⟨first, others, mapError_ok found, ih.mp rest, rfl⟩
    · rintro ⟨first, others, found, rest, rfl⟩
      rw [found, ih.mpr rest]
      rfl

theorem ofValue_ne_null {v : Value} (present : v ≠ .null) : Document.ofValue v ≠ .null := by
  cases v with
  | null => exact absurd rfl present
  | _ => nofun

theorem text_decode_iff {source : Source} {v : Value} {s : String} :
    Decoder.text.decode source (.ofValue v) = .ok s ↔ v = .string s := by
  constructor
  · intro decoded
    cases v <;> cases decoded
    rfl
  · rintro rfl
    rfl

theorem fromText_decode_iff {α : Type} {read : String → Except Fault α} {source : Source} {v : Value} {a : α} :
    (Decoder.fromText read).decode source (.ofValue v) = .ok a ↔ ∃ s, v = .string s ∧ read s = .ok a := by
  constructor
  · intro decoded
    obtain ⟨s, found, accepted⟩ := bind_ok decoded
    exact ⟨s, text_decode_iff.mp found, accepted⟩
  · rintro ⟨s, rfl, accepted⟩
    exact accepted

def Source.Allows : Source → Nat → Prop
  | .text room, depth => depth < room
  | .value, _ | .buffered, _ => True

namespace Source

theorem Allows.less {source : Source} {depth least : Nat} (allows : source.Allows depth)
    (less : least ≤ depth) : source.Allows least := by
  cases source with
  | text room => exact Nat.lt_of_le_of_lt less allows
  | value => trivial
  | buffered => trivial

theorem Allows.enter {source : Source} {depth : Nat} (allows : source.Allows (depth + 1)) :
    ∃ inner, source.enter = .ok inner ∧ inner.Allows depth := by
  cases source with
  | text room =>
    have more : depth + 1 < room := allows
    refine ⟨.text (room - 1), ?_, ?_⟩
    · rw [Source.enter, if_neg (by omega)]
    · change depth < room - 1
      omega
  | value => exact ⟨.value, rfl, trivial⟩
  | buffered => exact ⟨.buffered, rfl, trivial⟩

end Source

mutual

theorem skip_ofValue (v : Value) : (Document.ofValue v).skip = .ok () := by
  cases v with
  | array items =>
    rw [Document.ofValue, Document.skip, skipItems_ofItems items]
    rfl
  | object members =>
    rw [Document.ofValue, Document.skip, skipMembers_ofMembers members]
    rfl
  | _ => rfl

theorem skipItems_ofItems (items : List Value) :
    Document.skipItems (Document.ofItems items) = .ok () := by
  cases items with
  | nil => rfl
  | cons item items =>
    rw [Document.ofItems, Document.skipItems, skip_ofValue item]
    exact skipItems_ofItems items

theorem skipMembers_ofMembers (members : List (String × Value)) :
    Document.skipMembers (Document.ofMembers members) = .ok () := by
  cases members with
  | nil => rfl
  | cons member members =>
    obtain ⟨key, value⟩ := member
    rw [Document.ofMembers, Document.skipMembers, skip_ofValue value]
    exact skipMembers_ofMembers members

end

mutual

theorem anyValue_ofValue {source : Source} (v : Value) (allows : source.Allows v.depth) :
    anyValue source (.ofValue v) = .ok v.sorted := by
  cases v with
  | array items =>
    obtain ⟨inner, entered, room⟩ := allows.enter
    rw [Document.ofValue, anyValue, entered]
    change (do let items ← anyItems inner (Document.ofItems items); _) = _
    rw [anyItems_ofItems items room]
    rfl
  | object members =>
    obtain ⟨inner, entered, room⟩ := allows.enter
    rw [Document.ofValue, anyValue, entered]
    change (do let members ← anyMembers inner (Document.ofMembers members); _) = _
    rw [anyMembers_ofMembers members room]
    rfl
  | _ => rfl

theorem anyItems_ofItems {source : Source} (items : List Value)
    (allows : source.Allows (Value.itemsDepth items)) :
    anyItems source (Document.ofItems items) = .ok (Value.sortedItems items) := by
  cases items with
  | nil => rfl
  | cons item items =>
    rw [Document.ofItems, anyItems, anyValue_ofValue item (allows.less (Nat.le_max_left _ _)),
      anyItems_ofItems items (allows.less (Nat.le_max_right _ _))]
    rfl

theorem anyMembers_ofMembers {source : Source} (members : List (String × Value))
    (allows : source.Allows (Value.membersDepth members)) :
    anyMembers source (Document.ofMembers members) = .ok (Value.sortedValues members) := by
  cases members with
  | nil => rfl
  | cons member members =>
    obtain ⟨key, value⟩ := member
    rw [Document.ofMembers, anyMembers, anyValue_ofValue value (allows.less (Nat.le_max_left _ _)),
      anyMembers_ofMembers members (allows.less (Nat.le_max_right _ _))]
    rfl

end

mutual

theorem anyValue_sorted {source : Source} {v : Value} (document : Document)
    (decoded : anyValue source document = .ok v) : v.sorted = v := by
  cases document with
  | null => cases decoded; rfl
  | bool b => cases decoded; rfl
  | number n =>
    obtain ⟨number, _, rfl⟩ := map_ok decoded
    rfl
  | string literal =>
    obtain ⟨s, _, rfl⟩ := map_ok decoded
    rfl
  | array items ending =>
    obtain ⟨inner, _, decoded⟩ := bind_ok decoded
    obtain ⟨values, found, decoded⟩ := bind_ok decoded
    obtain ⟨_, _, decoded⟩ := bind_ok decoded
    cases decoded
    rw [Value.sorted, anyItems_sorted items found]
  | object members ending =>
    obtain ⟨inner, _, decoded⟩ := bind_ok decoded
    obtain ⟨values, found, decoded⟩ := bind_ok decoded
    obtain ⟨_, _, decoded⟩ := bind_ok decoded
    cases decoded
    exact Value.sorted_sortMembers (anyMembers_sorted members found)
  | broken flaw => cases decoded

theorem anyItems_sorted {source : Source} {values : List Value} (items : List Document)
    (decoded : anyItems source items = .ok values) : Value.sortedItems values = values := by
  cases items with
  | nil =>
    cases decoded
    rfl
  | cons item items =>
    obtain ⟨first, found, decoded⟩ := bind_ok decoded
    obtain ⟨others, rest, decoded⟩ := bind_ok decoded
    cases decoded
    rw [Value.sortedItems, anyValue_sorted item found, anyItems_sorted items rest]

theorem anyMembers_sorted {source : Source} {values : List (String × Value)}
    (members : List (Literal × Document)) (decoded : anyMembers source members = .ok values) :
    ∀ member ∈ values, member.2.sorted = member.2 := by
  cases members with
  | nil =>
    cases decoded
    exact nofun
  | cons member members =>
    obtain ⟨literal, document⟩ := member
    obtain ⟨key, _, decoded⟩ := bind_ok decoded
    obtain ⟨first, found, decoded⟩ := bind_ok decoded
    obtain ⟨others, rest, decoded⟩ := bind_ok decoded
    cases decoded
    intro member present
    rcases List.mem_cons.mp present with rfl | later
    · exact anyValue_sorted document found
    · exact anyMembers_sorted members rest member later

end

theorem anyValue_ne_null {source : Source} {v : Value} {document : Document}
    (present : document ≠ .null) (decoded : anyValue source document = .ok v) : v ≠ .null := by
  cases document with
  | null => exact absurd rfl present
  | bool b => cases decoded; nofun
  | number n =>
    obtain ⟨number, _, rfl⟩ := map_ok decoded
    nofun
  | string literal =>
    obtain ⟨s, _, rfl⟩ := map_ok decoded
    nofun
  | array items ending =>
    obtain ⟨inner, _, decoded⟩ := bind_ok decoded
    obtain ⟨values, _, decoded⟩ := bind_ok decoded
    obtain ⟨_, _, decoded⟩ := bind_ok decoded
    cases decoded
    nofun
  | object members ending =>
    obtain ⟨inner, _, decoded⟩ := bind_ok decoded
    obtain ⟨values, _, decoded⟩ := bind_ok decoded
    obtain ⟨_, _, decoded⟩ := bind_ok decoded
    cases decoded
    nofun
  | broken flaw => cases decoded

end TezosNode.Decode
