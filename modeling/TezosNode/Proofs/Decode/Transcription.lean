import TezosNode.Proofs.Decode.Values
import TezosNode.Proofs.Json.Coherence

namespace TezosNode.Decode

open Json

namespace Source

theorem Allows.of_enter {source inner : Source} {depth : Nat} (entered : source.enter = .ok inner)
    (allows : inner.Allows depth) : source.Allows (depth + 1) := by
  cases source with
  | text room =>
    rw [Source.enter] at entered
    split at entered
    · cases entered
    · cases entered
      have less : depth < room - 1 := allows
      change depth + 1 < room
      omega
  | value => trivial
  | buffered => trivial

theorem allows_zero_of_enter {source inner : Source} (entered : source.enter = .ok inner) :
    inner.Allows 0 := by
  cases source with
  | text room =>
    rw [Source.enter] at entered
    split at entered
    · cases entered
    · cases entered
      change 0 < room - 1
      omega
  | value =>
    cases entered
    trivial
  | buffered =>
    cases entered
    trivial

theorem Allows.max {source : Source} {first second : Nat} (one : source.Allows first)
    (other : source.Allows second) : source.Allows (Nat.max first second) := by
  cases source with
  | text room => exact Nat.max_lt.mpr ⟨one, other⟩
  | value => trivial
  | buffered => trivial

end Source

theorem sound_ok {α : Type} {result : Except Malformed α} {a : α} (known : sound result = .ok a) :
    result = .ok a := by
  cases result with
  | error fault => cases known
  | ok b =>
    cases known
    rfl

theorem ofString_of_text {literal : Literal} {s : String} (coherent : literal.Coherent)
    (known : sound literal.text = .ok s) : literal = .ofString s := by
  obtain ⟨text, skipped⟩ := literal
  have written : text = .ok s := sound_ok known
  have passed : skipped = .ok () := coherent s written
  rw [written, passed]
  rfl

mutual

theorem ofValue_of_anyValue {source : Source} {v : Value} (document : Document)
    (coherent : document.Coherent) (decoded : anyValue source document = .ok v) :
    ∃ w, document = .ofValue w ∧ w.sorted = v ∧ (source.Allows 0 → source.Allows w.depth) := by
  cases document with
  | null =>
    cases decoded
    exact ⟨.null, rfl, rfl, id⟩
  | bool b =>
    cases decoded
    exact ⟨.bool b, rfl, rfl, id⟩
  | number n =>
    obtain ⟨number, known, rfl⟩ := map_ok decoded
    rw [sound_ok known]
    exact ⟨.number number, rfl, rfl, id⟩
  | string literal =>
    obtain ⟨s, known, rfl⟩ := map_ok decoded
    rw [ofString_of_text coherent known]
    exact ⟨.string s, rfl, rfl, id⟩
  | array items ending =>
    obtain ⟨inner, entered, decoded⟩ := bind_ok decoded
    obtain ⟨values, found, decoded⟩ := bind_ok decoded
    obtain ⟨_, closed, decoded⟩ := bind_ok decoded
    cases decoded
    obtain ⟨ws, rfl, rfl, deep⟩ := ofItems_of_anyItems items coherent found
    have deeper := Source.Allows.of_enter entered (deep (Source.allows_zero_of_enter entered))
    cases ending with
    | closed => exact ⟨.array ws, rfl, rfl, fun _ => deeper⟩
    | _ => cases closed
  | object members ending =>
    obtain ⟨inner, entered, decoded⟩ := bind_ok decoded
    obtain ⟨values, found, decoded⟩ := bind_ok decoded
    obtain ⟨_, closed, decoded⟩ := bind_ok decoded
    cases decoded
    obtain ⟨ws, rfl, rfl, deep⟩ := ofMembers_of_anyMembers members coherent found
    have deeper := Source.Allows.of_enter entered (deep (Source.allows_zero_of_enter entered))
    cases ending with
    | closed => exact ⟨.object ws, rfl, rfl, fun _ => deeper⟩
    | _ => cases closed
  | broken flaw => cases decoded

theorem ofItems_of_anyItems {source : Source} {values : List Value} (items : List Document)
    (coherent : Document.ItemsCoherent items) (decoded : anyItems source items = .ok values) :
    ∃ ws, items = Document.ofItems ws ∧ Value.sortedItems ws = values ∧
      (source.Allows 0 → source.Allows (Value.itemsDepth ws)) := by
  cases items with
  | nil =>
    cases decoded
    exact ⟨[], rfl, rfl, id⟩
  | cons item items =>
    obtain ⟨first, found, decoded⟩ := bind_ok decoded
    obtain ⟨others, rest, decoded⟩ := bind_ok decoded
    cases decoded
    obtain ⟨w, rfl, rfl, deep⟩ := ofValue_of_anyValue item coherent.1 found
    obtain ⟨ws, rfl, rfl, deeper⟩ := ofItems_of_anyItems items coherent.2 rest
    exact ⟨w :: ws, rfl, rfl, fun room => (deep room).max (deeper room)⟩

theorem ofMembers_of_anyMembers {source : Source} {values : List (String × Value)}
    (members : List (Literal × Document)) (coherent : Document.MembersCoherent members)
    (decoded : anyMembers source members = .ok values) :
    ∃ ws, members = Document.ofMembers ws ∧ Value.sortedValues ws = values ∧
      (source.Allows 0 → source.Allows (Value.membersDepth ws)) := by
  cases members with
  | nil =>
    cases decoded
    exact ⟨[], rfl, rfl, id⟩
  | cons member members =>
    obtain ⟨literal, document⟩ := member
    obtain ⟨key, known, decoded⟩ := bind_ok decoded
    obtain ⟨first, found, decoded⟩ := bind_ok decoded
    obtain ⟨others, rest, decoded⟩ := bind_ok decoded
    cases decoded
    obtain ⟨w, rfl, rfl, deep⟩ := ofValue_of_anyValue document coherent.2.1 found
    obtain ⟨ws, rfl, rfl, deeper⟩ := ofMembers_of_anyMembers members coherent.2.2 rest
    rw [ofString_of_text coherent.1 known]
    exact ⟨(key, w) :: ws, rfl, rfl, fun room => (deep room).max (deeper room)⟩

end

theorem Decoder.ofText_eq {α : Type} (d : Decoder α) (text : Bytes) :
    d.ofText text = (d.decode (.text textRoom) (Document.read text).1).bind fun a =>
      if (Document.read text).2.all Ascii.isJsonBlank then .ok a
      else .error (.malformed .trailingCharacters) := by
  rw [ofText, ofFront]
  cases decoded : d.decode (.text textRoom) (Document.read text).1 <;> simp only [decoded] <;> rfl

/-- The text is JSON, and this is its value as it stands there: the members of objects in their order,
each as often as it occurs. -/
structure Transcribes (text : Bytes) (written : Value) : Prop where
  whole : (Document.read text).1 = .ofValue written
  shallow : written.depth < Decoder.textRoom
  blank : (Document.read text).2.all Ascii.isJsonBlank = true

namespace Transcribes

variable {text : Bytes} {w : Value}

theorem allows (transcribes : Transcribes text w) :
    (Source.text Decoder.textRoom).Allows w.depth := transcribes.shallow

theorem ofText {α : Type} (transcribes : Transcribes text w) (d : Decoder α) :
    d.ofText text = d.decode (.text Decoder.textRoom) (.ofValue w) := by
  rw [Decoder.ofText_eq, transcribes.whole, transcribes.blank]
  cases d.decode (.text Decoder.textRoom) (.ofValue w) <;> rfl

end Transcribes

/-- A text is JSON if it can be taken for any value, which is its own one with sorted members. -/
theorem any_ofText_iff {text : Bytes} {v : Value} :
    Decoder.any.ofText text = .ok v ↔ ∃ w, Transcribes text w ∧ w.sorted = v := by
  constructor
  · intro decoded
    rw [Decoder.ofText_eq] at decoded
    obtain ⟨value, found, ended⟩ := bind_ok decoded
    have room : (Source.text Decoder.textRoom).Allows 0 := Nat.zero_lt_succ _
    obtain ⟨w, whole, same, shallow⟩ := ofValue_of_anyValue _ (Document.read_coherent text) found
    split at ended
    · next blank =>
      cases ended
      exact ⟨w, ⟨whole, shallow room, blank⟩, same⟩
    · cases ended
  · rintro ⟨w, transcribes, rfl⟩
    rw [transcribes.ofText]
    exact anyValue_ofValue w transcribes.allows

theorem fromText_ofText_iff {α : Type} {read : String → Except Fault α} {text : Bytes} {a : α} :
    (Decoder.fromText read).ofText text = .ok a ↔ ∃ s, Transcribes text (.string s) ∧ read s = .ok a := by
  constructor
  · intro decoded
    rw [Decoder.ofText_eq] at decoded
    obtain ⟨b, found, ended⟩ := bind_ok decoded
    obtain ⟨s, known, accepted⟩ := bind_ok found
    have coherent := Document.read_coherent text
    have whole : (Document.read text).1 = .ofValue (.string s) := by
      cases document : (Document.read text).1 with
      | string literal =>
        rw [document] at known coherent
        rw [ofString_of_text coherent known]
        rfl
      | number n =>
        rw [document] at known
        cases n <;> cases known
      | _ =>
        rw [document] at known
        cases known
    split at ended
    · next blank =>
      cases ended
      exact ⟨s, ⟨whole, Nat.zero_lt_succ _, blank⟩, accepted⟩
    · cases ended
  · rintro ⟨s, transcribes, accepted⟩
    rw [transcribes.ofText]
    exact fromText_decode_iff.mpr ⟨s, rfl, accepted⟩

end TezosNode.Decode
