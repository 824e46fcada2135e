import TezosNode.Proofs.Decode.Blame
import TezosNode.Proofs.Outcome

/-!
Every fault is traced to the part that is to blame. A decoder made of decoders whose faults are traced is
one of them; scalars name no place at all.
-/

namespace TezosNode.Decode

open Json

variable {α β γ : Type}

theorem mismatch_plain (wanted : Wanted) (document : Document) : (mismatch wanted document).Plain := by
  unfold mismatch
  split <;> trivial

namespace Decoder

/-- No fault names a place. -/
class Plain (d : Decoder α) : Prop where
  plain : ∀ {source : Source} {v : Value} {fault : Fault}, source.Boundless →
    d.decode source (.ofValue v) = .error fault → fault.Plain

instance (wanted : Wanted) : Plain (textFor wanted) := by
  constructor
  intro source v fault _ refused
  cases v with
  | string s => cases refused
  | _ =>
    cases refused
    trivial

instance : Plain text := inferInstanceAs (Plain (textFor .text))

instance : Plain bool := by
  constructor
  intro source v fault _ refused
  cases v with
  | bool b => cases refused
  | _ =>
    cases refused
    trivial

instance (kind : String) (low high : Int) : Plain (integer kind low high) := by
  constructor
  intro source v fault _ refused
  cases v with
  | number n =>
    cases n with
    | integer n =>
      change (if low ≤ n ∧ n ≤ high then _ else _) = _ at refused
      split at refused
      · cases refused
      · cases refused
        trivial
    | double bits =>
      cases refused
      trivial
  | _ =>
    cases refused
    trivial

instance : Plain any := by
  constructor
  intro source v fault boundless refused
  cases (anyValue_ofValue v (boundless.allows _)).symm.trans refused

instance (d : Decoder α) [Plain d] (f : α → β) : Plain (d.map f) :=
  ⟨fun boundless refused => Plain.plain boundless (map_error refused)⟩

theorem plain_refine {d : Decoder α} [Plain d] {f : α → Except Fault β}
    (named : ∀ a fault, f a = .error fault → fault.Plain) : Plain (d.refine f) := by
  constructor
  intro source v fault boundless refused
  rcases bind_error refused with faulty | ⟨a, _, faulty⟩
  · exact Plain.plain boundless faulty
  · exact named a fault faulty

/-- Whatever is refused, a part of it is to blame. -/
class Traced (d : Decoder α) : Prop where
  blames : ∀ {source : Source} {v : Value} {fault : Fault}, source.Boundless →
    d.decode source (.ofValue v) = .error fault →
      ∃ path m, Blames source d v path m ∧ fault = m.under path

theorem blames_whole {d : Decoder α} {source : Source} {v : Value} {fault : Fault}
    (refused : d.decode source (.ofValue v) = .error fault) (plain : fault.Plain) :
    ∃ path m, Blames source d v path m ∧ fault = m.under path := ⟨[], fault, .here refused plain, rfl⟩

instance (d : Decoder α) [Plain d] : Traced d :=
  ⟨fun boundless refused => blames_whole refused (Plain.plain boundless refused)⟩

instance (f : α → β) (d : Decoder α) [Traced d] : Traced (d.map f) := by
  constructor
  intro source v fault boundless refused
  obtain ⟨path, m, blames, rfl⟩ := Traced.blames boundless (map_error refused)
  exact ⟨path, m, .map f blames, rfl⟩

instance (d : Decoder α) [Traced d] : Traced d.option := by
  constructor
  intro source v fault boundless refused
  by_cases none : v = .null
  · rw [none] at refused
    cases refused
  · rw [option_decode (ofValue_ne_null none)] at refused
    obtain ⟨path, m, blames, rfl⟩ := Traced.blames boundless (map_error refused)
    exact ⟨path, m, .present none blames, rfl⟩

instance (d : Decoder α) [Traced d] : Traced d.list := by
  constructor
  intro source v fault boundless refused
  by_cases listed : ∃ items, v = .array items
  · obtain ⟨items, rfl⟩ := listed
    have faulty := refused
    rw [list_items d boundless, mapM_error_iff] at faulty
    obtain ⟨i, first⟩ := faulty
    obtain ⟨front, w, back, rfl, rfl, before, faulty⟩ := first.split
    obtain ⟨path, m, blames, rfl⟩ := Traced.blames boundless faulty
    exact ⟨path, m, .item before blames, rfl⟩
  · have other : ∀ items, v ≠ .array items := fun items same => listed ⟨items, same⟩
    have faulty := refused.symm.trans (list_other d other source)
    exact blames_whole refused (Except.error.inj faulty ▸ mismatch_plain _ _)

instance (first : Decoder α) (second : Decoder β) [Traced first] [Traced second] :
    Traced (pair first second) := by
  constructor
  intro source v fault boundless refused
  cases (pair_error_iff boundless).mp refused with
  | other _ => exact blames_whole refused (mismatch_plain _ _)
  | short _ => exact blames_whole refused trivial
  | first faulty =>
    obtain ⟨path, m, blames, rfl⟩ := Traced.blames Source.value_boundless faulty
    exact ⟨.position 0 :: path, m, .first blames, rfl⟩
  | second found faulty =>
    obtain ⟨path, m, blames, rfl⟩ := Traced.blames Source.value_boundless faulty
    exact ⟨.position 1 :: path, m, .second found blames, rfl⟩

instance (setKey : String → α → α) (record : Decoder α) [Traced record] : Traced (keyed setKey record) :=
  inferInstanceAs (Traced ((pair text record).map _))

instance (setKey : String → α → α) (record : Decoder α) [Traced record] :
    Traced (keyedList setKey record) := by
  constructor
  intro source v fault boundless refused
  cases v with
  | array items =>
    rw [keyedList_array setKey record boundless] at refused
    obtain ⟨i, m, first, rfl⟩ := elementsFrom_error_iff.mp refused
    obtain ⟨front, w, back, rfl, rfl, before, faulty⟩ := first.split
    obtain ⟨path, m, blames, rfl⟩ := Traced.blames (d := keyed setKey record) Source.value_boundless faulty
    exact ⟨.element front.length :: path, m, .keyedElement before blames, by rw [Nat.zero_add]; rfl⟩
  | null => cases refused
  | _ =>
    exact blames_whole refused (by cases refused; trivial)

end Decoder

namespace Fields

class Traced (f : Fields α) : Prop where
  put : ∀ {source : Source} {slots : f.Slots} {key : String} {v : Value} {fault : Fault},
    source.Boundless → f.put source slots key (.ofValue v) = some (.error fault) → fault.Plain ∨
      ∃ (β : Type) (d : Decoder β) (place : β → f.Slots) (path : List Place) (m : Fault),
        (∀ document, f.put source slots key document = some ((d.decode source document).map place)) ∧
          Blames source d v path m ∧ fault = m.under path
  finish : ∀ {slots : f.Slots} {fault : Fault}, f.finish slots = .error fault → fault.Plain
  take : ∀ {source : Source} {short : Nat → Fault} {items : List Value} {fault : Fault},
    source.Boundless → (∀ n, (short n).Plain) →
    f.take source short (items.map .ofValue) .closed = .error fault → fault.Plain ∨
      ∃ (β : Type) (d : Decoder β) (front : List Value) (v : Value) (back : List Value)
        (path : List Place) (m : Fault), items = front ++ v :: back ∧ f.NextItem source front d ∧
          Blames source d v path m ∧ fault = m.under path
  /-- Where items are left over, all fields took one, and what stands behind them makes no difference. -/
  past : ∀ {source : Source} {short : Nat → Fault} {items rest : List Document} {item : Document} {a : α},
    f.take source short items .closed = .ok (a, item :: rest) →
      ∃ front, items = front ++ item :: rest ∧
        ∀ short others, f.take source short (front ++ others) .closed = .ok (a, others)

instance (a : α) : Traced (make a) where
  put _ refused := by cases refused
  finish refused := by cases refused
  take _ _ refused := by cases refused
  past taken := by
    cases taken
    exact ⟨[], rfl, fun _ _ => rfl⟩

section

variable {f : Fields (β → α)} [f.Traced] {name : String} {d : Decoder β} {absent : Option β}
  {source : Source} {fault : Fault}

theorem finish_field_traced {slots : f.Slots × Option β}
    (refused : (f.field name d absent).finish slots = .error fault) : fault.Plain := by
  rcases bind_error refused with inner | ⟨make, _, refused⟩
  · exact Traced.finish inner
  · cases known : slots.2 <|> absent with
    | none =>
      simp only [known] at refused
      cases refused
      trivial
    | some b =>
      simp only [known] at refused
      cases refused

theorem past_field_traced {short : Nat → Fault} {items rest : List Document} {item : Document} {a : α}
    (taken : (f.field name d absent).take source short items .closed = .ok (a, item :: rest)) :
    ∃ front, items = front ++ item :: rest ∧ ∀ short others,
      (f.field name d absent).take source short (front ++ others) .closed = .ok (a, others) := by
  obtain ⟨⟨g, left⟩, first, taken⟩ := bind_ok taken
  cases left with
  | nil => cases absent <;> cases taken
  | cons own left =>
    obtain ⟨b, found, taken⟩ := bind_ok taken
    cases taken
    obtain ⟨front, rfl, past⟩ := Traced.past first
    refine ⟨front ++ [own], by simp, fun short others => ?_⟩
    change (f.take source short _ .closed >>= _) = _
    rw [List.append_assoc, past]
    change (d.decode source own >>= _) = _
    rw [found]
    rfl

variable [d.Traced]

theorem put_field_traced {slots : f.Slots × Option β} {key : String} {v : Value} (boundless : source.Boundless)
    (refused : (f.field name d absent).put source slots key (.ofValue v) = some (.error fault)) :
    fault.Plain ∨ ∃ (γ : Type) (e : Decoder γ) (place : γ → f.Slots × Option β) (path : List Place) (m : Fault),
      (∀ document, (f.field name d absent).put source slots key document =
        some ((e.decode source document).map place)) ∧
        Blames source e v path m ∧ fault = m.under path := by
  obtain ⟨slots, slot⟩ := slots
  by_cases same : key = name
  · subst same
    cases slot with
    | some b =>
      rw [put_field_again] at refused
      cases refused
      exact .inl trivial
    | none =>
      rw [put_field_same rfl] at refused
      have faulty := map_error (Option.some.inj refused)
      obtain ⟨path, m, blames, named⟩ := Decoder.Traced.blames boundless faulty
      exact .inr ⟨β, d, _, path, m, fun _ => put_field_same rfl, blames, named⟩
  · rw [put_field_other same rfl] at refused
    obtain ⟨result, put, done⟩ := Option.map_eq_some_iff.mp refused
    rw [map_error done] at put
    rcases Traced.put boundless put with plain | ⟨γ, e, place, path, m, next, blames, named⟩
    · exact .inl plain
    · refine .inr ⟨γ, e, fun c => (place c, slot), path, m, fun document => ?_, blames, named⟩
      rw [put_field_other same (next document)]
      cases e.decode source document <;> rfl

theorem take_field_traced {short : Nat → Fault} {items : List Value} (boundless : source.Boundless)
    (plain : ∀ n, (short n).Plain)
    (refused : (f.field name d absent).take source short (items.map .ofValue) .closed = .error fault) :
    fault.Plain ∨ ∃ (γ : Type) (e : Decoder γ) (front : List Value) (v : Value) (back : List Value)
      (path : List Place) (m : Fault), items = front ++ v :: back ∧
        (f.field name d absent).NextItem source front e ∧ Blames source e v path m ∧ fault = m.under path := by
  rcases bind_error refused with inner | ⟨⟨g, left⟩, taken, refused⟩
  · rcases Traced.take boundless plain inner with own | ⟨γ, e, front, v, back, path, m, parts, next, rest⟩
    · exact .inl own
    · exact .inr ⟨γ, e, front, v, back, path, m, parts, .earlier next, rest⟩
  · cases left with
    | nil =>
      cases absent with
      | none =>
        cases refused
        exact .inl (plain _)
      | some b => cases refused
    | cons item left =>
      -- the items that are left start with the one this field decodes
      obtain ⟨before, parts, past⟩ := Traced.past taken
      obtain ⟨front, behind, rfl, rfl, shape⟩ := List.map_eq_append_iff.mp parts
      obtain ⟨v, back, rfl, rfl, _⟩ := List.map_eq_cons_iff.mp shape
      rcases bind_error refused with faulty | ⟨b, _, done⟩
      · obtain ⟨path, m, blames, named⟩ := Decoder.Traced.blames boundless faulty
        exact .inr ⟨β, d, front, v, back, path, m, rfl, .last past, blames, named⟩
      · cases done

end

instance (f : Fields (β → α)) [f.Traced] (name : String) (d : Decoder β) [d.Traced] (absent : Option β) :
    (f.field name d absent).Traced where
  put := put_field_traced
  finish := finish_field_traced
  take := take_field_traced
  past := past_field_traced

instance (f : Fields (β → α)) [f.Traced] (name : String) (d : Decoder β) [d.Traced] :
    (f.required name d).Traced := inferInstanceAs (f.field ..).Traced

instance (f : Fields (β → α)) [f.Traced] (name : String) (d : Decoder β) [d.Traced] (absent : β) :
    (f.orElse name d absent).Traced := inferInstanceAs (f.field ..).Traced

instance (f : Fields (Option β → α)) [f.Traced] (name : String) (d : Decoder β) [d.Traced] :
    (f.optional name d).Traced := inferInstanceAs (f.field ..).Traced

end Fields

namespace Fields

theorem fill_refused {f : Fields α} {source : Source} {slots : f.Slots} {members : List (String × Value)}
    {fault : Fault} (refused : f.fill source slots (buffered members) = .error fault) :
    ∃ front key v back next, members = front ++ (key, v) :: back ∧
      f.fill source slots (buffered front) = .ok next ∧
        f.put source next key (.ofValue v) = some (.error fault) := by
  induction members generalizing slots with
  | nil => cases refused
  | cons member members ih =>
    obtain ⟨key, v⟩ := member
    rw [buffered_cons] at refused
    cases put : f.put source slots key (.ofValue v) with
    | none =>
      rw [fill_skip f put] at refused
      obtain ⟨front, key', v', back, next, rfl, fills, faulty⟩ := ih refused
      refine ⟨(key, v) :: front, key', v', back, next, rfl, ?_, faulty⟩
      rw [buffered_cons, fill_skip f put, fills]
    | some result =>
      cases result with
      | error m =>
        rw [fill_stop f put] at refused
        cases refused
        exact ⟨[], key, v, members, slots, rfl, rfl, put⟩
      | ok after =>
        rw [fill_next f put] at refused
        obtain ⟨front, key', v', back, next, rfl, fills, faulty⟩ := ih refused
        refine ⟨(key, v) :: front, key', v', back, next, rfl, ?_, faulty⟩
        rw [buffered_cons, fill_next f put, fills]

theorem reads_refused {f : Fields α} [f.Traced] {source : Source} (boundless : source.Boundless)
    {members : List (String × Value)} {fault : Fault} (refused : f.reads source members = .error fault) :
    fault.Plain ∨ ∃ (β : Type) (d : Decoder β) (front : List (String × Value)) (key : String) (v : Value)
      (back : List (String × Value)) (path : List Place) (m : Fault),
        members = front ++ (key, v) :: back ∧ f.NextMember source front key d ∧
          Blames source d v path m ∧ fault = m.under path := by
  rcases bind_error refused with filling | ⟨slots, _, finishing⟩
  · obtain ⟨front, key, v, back, slots, parts, fills, faulty⟩ := fill_refused filling
    rcases Traced.put boundless faulty with plain | ⟨β, d, place, path, m, next, rest⟩
    · exact .inl plain
    · exact .inr ⟨β, d, front, key, v, back, path, m, parts, ⟨slots, fills, place, next⟩, rest⟩
  · exact .inl (Traced.finish finishing)

end Fields

theorem tooLong_plain (source : Source) (length fields : Nat) : (tooLong source length fields).Plain := by
  cases source <;> trivial

namespace Decoder

instance (name : String) (f : Fields α) [f.Traced] : Traced (record name f) := by
  constructor
  intro source v fault boundless refused
  cases v with
  | object members =>
    have reads := refused
    rw [record_reads name f boundless] at reads
    rcases f.reads_refused boundless reads with plain | ⟨β, d, front, key, v, back, path, m, rfl, next, blames, rfl⟩
    · exact blames_whole refused plain
    · exact ⟨path, m, .member next blames, rfl⟩
  | array items =>
    have takes := refused
    have short : ∀ n, (Fault.wrongLength n (.fields name f.names.length)).Plain := fun _ => trivial
    rw [record_items name f boundless] at takes
    rcases bind_error takes with inner | ⟨taken, _, left⟩
    · rcases Fields.Traced.take boundless short inner with
        plain | ⟨β, d, front, v, back, path, m, rfl, next, blames, rfl⟩
      · exact blames_whole refused plain
      · exact ⟨path, m, .listed next blames, rfl⟩
    · split at left
      · cases left
      · cases left
        exact blames_whole refused (tooLong_plain _ _ _)
  | _ =>
    refine blames_whole refused ?_
    cases refused
    trivial

theorem traced_flattened {name : String} {own : Fields (γ → α)} [own.Lawful] [own.Traced] {part : Fields γ}
    [part.Lawful] [part.Traced] (apart : ∀ key ∈ part.names, key ∉ own.names) :
    Traced (flattened name own (.fields part)) := by
  constructor
  intro source v fault boundless refused
  cases v with
  | object members =>
    have reads := refused
    rw [flattened_reads name own part apart boundless] at reads
    rcases bind_error reads with owned | ⟨make, read, reads⟩
    · rcases own.reads_refused boundless owned with
        plain | ⟨β, d, front, key, v, back, path, m, rfl, next, blames, rfl⟩
      · exact blames_whole refused plain
      · exact ⟨path, m, .own apart next blames, rfl⟩
    · rcases bind_error reads with parted | ⟨_, _, done⟩
      · rcases part.reads_refused Source.buffered_boundless parted with
          plain | ⟨β, d, front, key, v, back, path, m, rfl, next, blames, rfl⟩
        · exact blames_whole refused plain
        · exact ⟨path, m, .part apart read next blames, rfl⟩
      · cases done
  | _ =>
    refine blames_whole refused ?_
    cases refused
    trivial

end Decoder

namespace Family

theorem traced {family : Family γ α} (common : family.common.Traced)
    (members : ∀ row ∈ family.members, row.2.Traced) : family.decoder.Traced := by
  constructor
  intro source v fault boundless refused
  rw [family.decoder_ofValue boundless] at refused
  rcases bind_error refused with faulty | ⟨c, probed, faulty⟩
  · obtain ⟨path, m, blames, rfl⟩ := common.blames Source.value_boundless faulty
    exact ⟨path, m, .shared blames, rfl⟩
  · cases found : family.lookup? (family.tag c) with
    | none =>
      rw [found] at faulty
      cases faulty
    | some d =>
      rw [found] at faulty
      obtain ⟨row, there, rfl⟩ := Option.map_eq_some_iff.mp found
      have each := members row (List.mem_of_find?_eq_some there)
      obtain ⟨path, m, blames, rfl⟩ := each.blames Source.value_boundless faulty
      exact ⟨path, m, .chosen probed found blames, rfl⟩

instance (family : Family γ α) [family.decoder.Traced] : family.list.Traced := by
  constructor
  intro source v fault boundless refused
  by_cases listed : ∃ items, v = .array items
  · obtain ⟨items, rfl⟩ := listed
    rw [family.list_array boundless] at refused
    obtain ⟨i, m, first, rfl⟩ := elementsFrom_error_iff.mp refused
    obtain ⟨front, w, back, rfl, rfl, before, faulty⟩ := first.split
    obtain ⟨path, m, blames, rfl⟩ := Decoder.Traced.blames (d := family.decoder) Source.value_boundless faulty
    exact ⟨.element front.length :: path, m, .element before blames, by rw [Nat.zero_add]; rfl⟩
  · have other : ∀ items, v ≠ .array items := fun items same => listed ⟨items, same⟩
    have present : v ≠ .null := by
      rintro rfl
      cases refused
    have faulty := refused.symm.trans (family.list_other boundless present other)
    exact Decoder.blames_whole refused (Except.error.inj faulty ▸ mismatch_plain _ _)

end Family

/-- A decoder whose faults lead to the part that is to blame, and to no other. -/
structure Decoder.Located (d : Decoder α) : Prop where
  refused : ∀ v fault, d.ofValue v = .error fault ↔
    ∃ path m, Blames .value d v path m ∧ fault = m.under path
  once : ∀ v path way m other, Blames .value d v path m → Blames .value d v way other → path = way ∧ m = other

theorem Decoder.located (d : Decoder α) [d.Traced] : d.Located where
  refused := by
    intro v fault
    constructor
    · exact Traced.blames Source.value_boundless
    · rintro ⟨path, m, blames, rfl⟩
      exact blames.decode_eq Source.value_boundless
  once _ _ _ _ _ := Blames.unique Source.value_boundless

end TezosNode.Decode
