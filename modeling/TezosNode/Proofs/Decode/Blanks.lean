import TezosNode.Proofs.Decode.Lists

namespace TezosNode.Decode

open Json

variable {α β γ : Type}

namespace Fields

/-- A member that fills the slot of its field with what stands in for it, and changes nothing else. -/
structure Spare (f : Fields α) (source : Source) (name : String) (v : Value) where
  free : f.Slots → Prop
  set : f.Slots → f.Slots
  blank : free f.blank
  here : ∀ slots, free slots → f.put source slots name (.ofValue v) = some (.ok (set slots))
  other : ∀ slots key document, free slots → key ≠ name →
    f.put source (set slots) key document = (f.put source slots key document).map (·.map set)
  stays : ∀ slots key document next, free slots → key ≠ name →
    f.put source slots key document = some (.ok next) → free next
  finish : ∀ slots, free slots → f.finish (set slots) = f.finish slots

namespace Spare

section

variable {f : Fields (β → α)} {source : Source} {name : String} {d : Decoder β} {b : β} {v : Value}

def last (f : Fields (β → α)) (name : String) (stands : d.decode source (.ofValue v) = .ok b) :
    (f.field name d (some b)).Spare source name v where
  free slots := slots.2 = none
  set slots := (slots.1, some b)
  blank := rfl
  here := by
    rintro ⟨slots, slot⟩ rfl
    exact put_field_same stands
  other := by
    rintro ⟨slots, slot⟩ key document rfl differs
    rw [put_field_other differs rfl, put_field_other differs rfl]
    cases f.put source slots key document with
    | none => rfl
    | some result => cases result <;> rfl
  stays := by
    rintro ⟨slots, slot⟩ key document next rfl differs put
    rw [put_field_other differs rfl] at put
    obtain ⟨result, _, filled⟩ := Option.map_eq_some_iff.mp put
    obtain ⟨_, _, rfl⟩ := map_ok filled
    rfl
  finish := by
    rintro ⟨slots, slot⟩ rfl
    rfl

end

def earlier {f : Fields (γ → α)} {source : Source} {name other : String} {v : Value} {e : Decoder γ}
    {absent : Option γ} (spare : f.Spare source name v) (differs : name ≠ other) :
    (f.field other e absent).Spare source name v where
  free slots := spare.free slots.1
  set slots := (spare.set slots.1, slots.2)
  blank := spare.blank
  here := by
    rintro ⟨slots, slot⟩ free
    rw [put_field_other differs (spare.here slots free)]
    rfl
  other := by
    rintro ⟨slots, slot⟩ key document free apart
    by_cases same : key = other
    · subst same
      cases slot with
      | some c =>
        rw [put_field_again, put_field_again]
        rfl
      | none =>
        rw [put_field_same rfl, put_field_same rfl]
        cases e.decode source document <;> rfl
    · rw [put_field_other same (spare.other slots key document free apart), put_field_other same rfl]
      cases f.put source slots key document with
      | none => rfl
      | some result => cases result <;> rfl
  stays := by
    rintro ⟨slots, slot⟩ key document ⟨next, after⟩ free apart put
    by_cases same : key = other
    · subst same
      cases slot with
      | some c =>
        rw [put_field_again] at put
        cases put
      | none =>
        rw [put_field_same rfl] at put
        obtain ⟨_, _, filled⟩ := map_ok (Option.some.inj put)
        cases filled
        exact free
    · rw [put_field_other same rfl] at put
      obtain ⟨result, inner, filled⟩ := Option.map_eq_some_iff.mp put
      obtain ⟨_, rfl, filled⟩ := map_ok filled
      cases filled
      exact spare.stays slots key document _ free apart inner
  finish := by
    rintro ⟨slots, slot⟩ free
    change (f.finish (spare.set slots) >>= _) = (f.finish slots >>= _)
    rw [spare.finish slots free]

variable {f : Fields α} {source : Source} {name : String} {v : Value} (spare : f.Spare source name v)
include spare

theorem fill_free {slots next : f.Slots} {members : List (String × Value)} (free : spare.free slots)
    (missing : name ∉ members.map (·.1)) (fills : f.fill source slots (buffered members) = .ok next) :
    spare.free next := by
  induction members generalizing slots with
  | nil =>
    cases fills
    exact free
  | cons member members ih =>
    obtain ⟨key, w⟩ := member
    rw [List.map_cons, List.mem_cons, not_or] at missing
    rw [buffered_cons] at fills
    cases put : f.put source slots key (.ofValue w) with
    | none =>
      rw [fill_skip f put] at fills
      exact ih free missing.2 fills
    | some result =>
      cases result with
      | error fault =>
        rw [fill_stop f put] at fills
        cases fills
      | ok after =>
        rw [fill_next f put] at fills
        exact ih (spare.stays slots key _ after free (Ne.symm missing.1) put) missing.2 fills

theorem fill_set {slots : f.Slots} {members : List (String × Value)} (free : spare.free slots)
    (missing : name ∉ members.map (·.1)) :
    f.fill source (spare.set slots) (buffered members) =
      (f.fill source slots (buffered members)).map spare.set := by
  induction members generalizing slots with
  | nil => rfl
  | cons member members ih =>
    obtain ⟨key, w⟩ := member
    rw [List.map_cons, List.mem_cons, not_or] at missing
    have moved := spare.other slots key (.ofValue w) free (Ne.symm missing.1)
    rw [buffered_cons]
    cases put : f.put source slots key (.ofValue w) with
    | none =>
      rw [put] at moved
      rw [fill_skip f put, fill_skip f moved, ih free missing.2]
    | some result =>
      rw [put] at moved
      cases result with
      | error fault =>
        rw [fill_stop f put, fill_stop f moved]
        rfl
      | ok after =>
        rw [fill_next f put, fill_next f moved]
        exact ih (spare.stays slots key _ after free (Ne.symm missing.1) put) missing.2

theorem reads_eq {front back : List (String × Value)} (before : name ∉ front.map (·.1))
    (behind : name ∉ back.map (·.1)) :
    f.reads source (front ++ (name, v) :: back) = f.reads source (front ++ back) := by
  rw [reads, reads, buffered_append, buffered_append, fill_append, fill_append]
  cases fills : f.fill source f.blank (buffered front) with
  | error fault => rfl
  | ok slots =>
    have free := spare.fill_free spare.blank before fills
    have put : f.fill source slots (buffered ((name, v) :: back)) =
        (f.fill source slots (buffered back)).map spare.set := by
      rw [buffered_cons, fill_next f (spare.here slots free), spare.fill_set free behind]
    change (f.fill source slots (buffered ((name, v) :: back)) >>= f.finish) =
      (f.fill source slots (buffered back) >>= f.finish)
    rw [put]
    cases fills' : f.fill source slots (buffered back) with
    | error fault => rfl
    | ok filled => exact spare.finish filled (spare.fill_free free behind fills')

end Spare

theorem reads_skip (f : Fields α) [f.Lawful] {source : Source} {key : String} (unknown : key ∉ f.names)
    (front : List (String × Value)) (v : Value) (back : List (String × Value)) :
    f.reads source (front ++ (key, v) :: back) = f.reads source (front ++ back) := by
  rw [reads, reads, buffered_append, buffered_append, fill_append, fill_append]
  have skipped (slots : f.Slots) : f.fill source slots (buffered ((key, v) :: back)) =
      f.fill source slots (buffered back) :=
    fill_skip f (put_of_not_mem f unknown source slots _) (buffered back)
  simp only [skipped]

end Fields

def ReadEmpty (d : Decoder (List β)) (v : Value) : Prop :=
  ∀ source : Source, source.Boundless → d.decode source (.ofValue v) = .ok []

/-- A list that a record may leave out. -/
structure Omittable (d : Decoder α) (key : String) (shown : α → List β) : Prop where
  same : ∀ v, v = .null ∨ v = .array [] → ∀ front back, key ∉ front.map (·.1) → key ∉ back.map (·.1) →
    d.ofValue (.object (front ++ (key, v) :: back)) = d.ofValue (.object (front ++ back))
  empty : ∀ members a, key ∉ members.map (·.1) → d.ofValue (.object members) = .ok a → shown a = []

theorem Family.list_readEmpty (family : Family γ α) (v : Value) (either : v = .null ∨ v = .array []) :
    ReadEmpty family.list v := by
  rcases either with rfl | rfl
  · exact fun _ _ => rfl
  · exact fun _ boundless => family.list_array boundless []

namespace Decoder

theorem keyedList_readEmpty (setKey : String → α → α) (record : Decoder α) (v : Value)
    (either : v = .null ∨ v = .array []) : ReadEmpty (keyedList setKey record) v := by
  rcases either with rfl | rfl
  · exact fun _ _ => rfl
  · exact fun _ boundless => keyedList_array setKey record boundless []

variable {d : Decoder (List β)} {key : String}

theorem record_omittable {name : String} {f : Fields α} {shown : α → List β}
    (blank : ∀ v, v = .null ∨ v = .array [] → ReadEmpty d v)
    (spare : ∀ v, ReadEmpty d v → Nonempty (f.Spare .value key v))
    (shows : (record name f).Shows key d (some []) fun a xs => shown a = xs) :
    Omittable (record name f) key shown where
  same := by
    intro v either front back before behind
    obtain ⟨spare⟩ := spare v (blank v either)
    rw [ofValue, ofValue, record_reads name f Source.value_boundless, record_reads name f Source.value_boundless]
    exact spare.reads_eq before behind
  empty := by
    intro members a missing decoded
    obtain ⟨xs, entry, same⟩ := shows members a decoded
    rw [lookup_of_not_mem missing] at entry
    cases entry
    exact same

theorem flattened_omittable {name : String} {own : Fields (γ → α)} [own.Lawful] {part : Fields γ}
    [part.Lawful] (apart : ∀ key ∈ part.names, key ∉ own.names) (unowned : key ∉ own.names)
    {index : Nat} {shown : α → List β} {inner : γ → List β}
    (makes : own.Makes fun make => ∀ c, shown (make c) = inner c)
    (blank : ∀ v, v = .null ∨ v = .array [] → ReadEmpty d v)
    (spare : ∀ v, ReadEmpty d v → Nonempty (part.Spare .buffered key v))
    (tells : part.Tells key index d (some []) fun c xs => inner c = xs) :
    Omittable (flattened name own (.fields part)) key shown where
  same := by
    intro v either front back before behind
    obtain ⟨spare⟩ := spare v (blank v either)
    rw [ofValue, ofValue, flattened_reads name own part apart Source.value_boundless,
      flattened_reads name own part apart Source.value_boundless, own.reads_skip unowned,
      spare.reads_eq before behind]
  empty := by
    intro members a missing decoded
    rw [ofValue, flattened_reads name own part apart Source.value_boundless] at decoded
    obtain ⟨make, owned, decoded⟩ := bind_ok decoded
    obtain ⟨c, read, decoded⟩ := bind_ok decoded
    cases decoded
    obtain ⟨slots, _, made⟩ := bind_ok owned
    obtain ⟨xs, entry, same⟩ := tells.members read
    rw [lookup_of_not_mem missing] at entry
    cases entry
    rw [makes slots make made, same]

end Decoder

end TezosNode.Decode
