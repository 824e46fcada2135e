import TezosNode.Decode.Record
import TezosNode.Proofs.Decode.Values

namespace TezosNode.Decode

open Json

def buffered (members : List (String × Value)) : List (String × Document) :=
  members.map fun (key, value) => (key, .ofValue value)

theorem buffered_cons (key : String) (value : Value) (members : List (String × Value)) :
    buffered ((key, value) :: members) = (key, .ofValue value) :: buffered members := rfl

namespace Fields

variable {α β γ : Type}

def fill (f : Fields α) (source : Source) (slots : f.Slots) :
    List (String × Document) → Except Fault f.Slots
  | [] => .ok slots
  | (key, document) :: members =>
    match f.put source slots key document with
    | some filled => do fill f source (← filled) members
    | none => fill f source slots members

theorem fill_next (f : Fields α) {source : Source} {slots next : f.Slots} {key : String}
    {document : Document} (put : f.put source slots key document = some (.ok next))
    (members : List (String × Document)) :
    f.fill source slots ((key, document) :: members) = f.fill source next members := by
  rw [fill, put]
  rfl

theorem fill_skip (f : Fields α) {source : Source} {slots : f.Slots} {key : String}
    {document : Document} (put : f.put source slots key document = none)
    (members : List (String × Document)) :
    f.fill source slots ((key, document) :: members) = f.fill source slots members := by
  rw [fill, put]

theorem fill_stop (f : Fields α) {source : Source} {slots : f.Slots} {key : String}
    {document : Document} {fault : Fault} (put : f.put source slots key document = some (.error fault))
    (members : List (String × Document)) :
    f.fill source slots ((key, document) :: members) = .error fault := by
  rw [fill, put]
  rfl

/-- Members have a slot exactly if their keys are names of fields. -/
class Lawful (f : Fields α) : Prop where
  put_isSome : ∀ source slots key document,
    (f.put source slots key document).isSome = true ↔ key ∈ f.names

theorem put_of_not_mem (f : Fields α) [Lawful f] {key : String} (unknown : key ∉ f.names)
    (source : Source) (slots : f.Slots) (document : Document) :
    f.put source slots key document = none := by
  have missing := mt (Lawful.put_isSome source slots key document).mp unknown
  simpa using missing

theorem put_of_mem (f : Fields α) [Lawful f] {key : String} (known : key ∈ f.names)
    (source : Source) (slots : f.Slots) (document : Document) :
    ∃ filled, f.put source slots key document = some filled :=
  Option.isSome_iff_exists.mp ((Lawful.put_isSome source slots key document).mpr known)

instance (value : α) : Lawful (make value) := ⟨by simp [make]⟩

instance (f : Fields (β → α)) [Lawful f] (name : String) (d : Decoder β) (absent : Option β) :
    Lawful (f.field name d absent) := by
  constructor
  intro source slots key document
  have inner : (f.put source slots.1 key document).isSome = true ↔ key ∈ f.names :=
    Lawful.put_isSome source slots.1 key document
  by_cases same : key = name
  · simp [field, same]
  · simp [field, same, inner]

instance (f : Fields (β → α)) [Lawful f] (name : String) (d : Decoder β) :
    Lawful (f.required name d) := inferInstanceAs (Lawful (f.field ..))

instance (f : Fields (β → α)) [Lawful f] (name : String) (d : Decoder β) (absent : β) :
    Lawful (f.orElse name d absent) := inferInstanceAs (Lawful (f.field ..))

instance (f : Fields (Option β → α)) [Lawful f] (name : String) (d : Decoder β) :
    Lawful (f.optional name d) := inferInstanceAs (Lawful (f.field ..))

theorem putAll_ofMembers (f : Fields α) (source : Source) (slots : f.Slots)
    (members : List (String × Value)) :
    f.putAll source slots (Document.ofMembers members) = f.fill source slots (buffered members) := by
  induction members generalizing slots with
  | nil => rfl
  | cons member members ih =>
    obtain ⟨key, value⟩ := member
    have skipped : sound (Document.ofValue value).skip = .ok () := by rw [skip_ofValue]; rfl
    have named : sound (Literal.ofString key).text = .ok key := rfl
    rw [buffered_cons, fill, Document.ofMembers]
    cases put : f.put source slots key (.ofValue value) with
    | some filled =>
      cases filled with
      | error fault => simp [putAll, named, put, bind, Except.bind]
      | ok slots => simpa [putAll, named, put, bind, Except.bind] using ih slots
    | none => cases source <;> simpa [putAll, named, put, skipped, bind, Except.bind] using ih slots

theorem putBuffered_eq (f : Fields α) (slots : f.Slots) (members : List (String × Document)) :
    f.putBuffered slots members = f.fill .buffered slots members := by
  induction members generalizing slots with
  | nil => rfl
  | cons member members ih =>
    obtain ⟨key, document⟩ := member
    rw [putBuffered, fill]
    cases f.put .buffered slots key document with
    | some filled =>
      cases filled with
      | error fault => rfl
      | ok slots => exact ih slots
    | none => exact ih slots

/-- Fields that are followed by a flattened part leave it the members of other names. -/
theorem putOwn_ofMembers (f : Fields α) [Lawful f] {source : Source} (slots : f.Slots)
    (members : List (String × Value)) (allows : source.Allows (Value.membersDepth members)) :
    f.putOwn source slots (Document.ofMembers members) =
      (f.fill source slots (buffered members)).map fun filled =>
        (filled, (buffered members).filter (·.1 ∉ f.names)) := by
  induction members generalizing slots with
  | nil => rfl
  | cons member members ih =>
    obtain ⟨key, value⟩ := member
    have room := allows.less (Nat.le_max_left _ _)
    have others (slots) := ih slots (allows.less (Nat.le_max_right _ _))
    have text : sound (Literal.ofString key).text = .ok key := rfl
    rw [buffered_cons, fill, Document.ofMembers, putOwn]
    by_cases known : key ∈ f.names
    · obtain ⟨filled, put⟩ := put_of_mem f known source slots (.ofValue value)
      rw [put, List.filter_cons_of_neg (by simpa using known)]
      simp only [text, put, bind, Except.bind]
      cases filled with
      | error fault => rfl
      | ok slots => exact others slots
    · rw [put_of_not_mem f known, List.filter_cons_of_pos (by simpa using known),
        anyValue_ofValue value room]
      simp only [text, put_of_not_mem f known, others slots, bind, Except.bind]
      cases f.fill source slots (buffered members) <;> rfl

theorem fill_filter (f : Fields α) [Lawful f] (source : Source) (slots : f.Slots)
    (members : List (String × Document)) (keep : String → Bool)
    (kept : ∀ name ∈ f.names, keep name = true) :
    f.fill source slots (members.filter (keep ·.1)) = f.fill source slots members := by
  induction members generalizing slots with
  | nil => rfl
  | cons member members ih =>
    obtain ⟨key, document⟩ := member
    by_cases stays : keep key = true
    · rw [List.filter_cons_of_pos (by simpa using stays), fill, fill]
      cases f.put source slots key document with
      | some filled =>
        cases filled with
        | error fault => rfl
        | ok slots => exact ih slots
      | none => exact ih slots
    · have unknown : key ∉ f.names := fun known => stays (kept key known)
      rw [List.filter_cons_of_neg (by simpa using stays), fill, put_of_not_mem f unknown]
      exact ih slots

end Fields

namespace Decoder

variable {α β γ : Type}

theorem record_object (name : String) (f : Fields α) {source : Source}
    (members : List (String × Value))
    (allows : source.Allows (Value.membersDepth members + 1)) :
    ∃ inner, source.enter = .ok inner ∧ inner.Allows (Value.membersDepth members) ∧
      (record name f).decode source (.ofValue (.object members)) =
        (f.fill inner f.blank (buffered members)).bind f.finish := by
  obtain ⟨inner, entered, room⟩ := allows.enter
  refine ⟨inner, entered, room, ?_⟩
  rw [record, Document.ofValue]
  simp only [entered, f.putAll_ofMembers]
  change (do let slots ← f.fill inner f.blank (buffered members); _) = _
  cases f.fill inner f.blank (buffered members) <;> rfl

theorem flattened_object (name : String) (own : Fields (γ → α)) [own.Lawful] (part : Fields γ)
    [part.Lawful] (apart : ∀ key ∈ part.names, key ∉ own.names) {source : Source}
    (members : List (String × Value)) (allows : source.Allows (Value.membersDepth members + 1)) :
    ∃ inner, source.enter = .ok inner ∧ inner.Allows (Value.membersDepth members) ∧
      (flattened name own (.fields part)).decode source (.ofValue (.object members)) = (do
        let slots ← own.fill inner own.blank (buffered members)
        let make ← own.finish slots
        let slots ← part.fill .buffered part.blank (buffered members)
        let shared ← part.finish slots
        pure (make shared)) := by
  obtain ⟨inner, entered, room⟩ := allows.enter
  refine ⟨inner, entered, room, ?_⟩
  have rest (make : γ → α) :
      (do
        let shared ← (Rest.fields part).decode ((buffered members).filter (·.1 ∉ own.names))
        pure (make shared) : Except Fault α) = (do
        let slots ← part.fill .buffered part.blank (buffered members)
        let shared ← part.finish slots
        pure (make shared)) := by
    have same := part.fill_filter .buffered part.blank (buffered members) (· ∉ own.names)
      (by simpa using apart)
    change ((do part.finish (← part.putBuffered part.blank _)) >>= _) = _
    rw [Fields.putBuffered_eq, same]
    cases part.fill .buffered part.blank (buffered members) <;> rfl
  rw [flattened, Document.ofValue]
  simp only [entered]
  change ((own.putOwn inner own.blank (Document.ofMembers members)) >>= _) = _
  rw [own.putOwn_ofMembers own.blank members room]
  cases own.fill inner own.blank (buffered members) with
  | error fault => rfl
  | ok slots =>
    change (do let make ← own.finish slots; _) = (do let make ← own.finish slots; _)
    cases own.finish slots with
    | error fault => rfl
    | ok make => exact rest make

end Decoder

end TezosNode.Decode
