import TezosNode.Decode.Elements
import TezosNode.Decode.Family
import TezosNode.Decode.Record
import TezosNode.Proofs.Decode.Keeping
import TezosNode.Proofs.Decode.Transcription
import TezosNode.Proofs.Json.Tearing

/-!
Decoders of texts that look at the whole of their document: they give a value only where nothing is
torn. A decoder made of such decoders is one too, so a text that breaks off is refused by all of them.
-/

namespace TezosNode.Decode

open Json

/-- Whatever the decoder takes from a text could have been passed over. -/
class Decoder.Attentive {α : Type} (d : Decoder α) : Prop where
  skips : ∀ {room : Nat} {document : Document} {a : α}, document.Coherent →
    d.decode (.text room) document = .ok a → document.skip = .ok ()

theorem skip_of_anyValue {source : Source} {document : Document} {v : Value}
    (coherent : document.Coherent) (decoded : anyValue source document = .ok v) :
    document.skip = .ok () := by
  obtain ⟨w, rfl, _, _⟩ := ofValue_of_anyValue document coherent decoded
  exact skip_ofValue w

theorem skipped_of_text {literal : Literal} {s : String} (coherent : literal.Coherent)
    (known : sound literal.text = .ok s) : literal.skipped = .ok () := coherent s (sound_ok known)

theorem closed_of_used {ending : ListEnd} (ended : sound ending.used = .ok ()) :
    ending = .closed := by
  cases ending with
  | closed => rfl
  | _ => cases ended

theorem closed_of_stopped {ending : ListEnd} (ended : sound ending.stopped = .ok ()) :
    ending = .closed := by
  cases ending with
  | closed => rfl
  | _ => cases ended

theorem closed_of_objectUsed {ending : ObjectEnd} (ended : sound ending.used = .ok ()) :
    ending = .closed := by
  cases ending with
  | closed => rfl
  | _ => cases ended

theorem enter_text {room : Nat} {inner : Source} (entered : (Source.text room).enter = .ok inner) :
    ∃ less, inner = .text less := by
  rw [Source.enter] at entered
  split at entered
  · cases entered
  · cases entered
    exact ⟨_, rfl⟩

namespace Decoder

variable {α β γ : Type}

instance (wanted : Wanted) : Attentive (textFor wanted) := by
  constructor
  intro room document a coherent decoded
  cases document with
  | string literal => exact skipped_of_text coherent decoded
  | _ => cases decoded

instance : Attentive text := inferInstanceAs (Attentive (textFor .text))

instance : Attentive bool := by
  constructor
  intro room document a _ decoded
  cases document with
  | bool b => rfl
  | _ => cases decoded

instance (kind : String) (low high : Int) : Attentive (integer kind low high) := by
  constructor
  intro room document a _ decoded
  cases document with
  | number n => rfl
  | _ => cases decoded

instance : Attentive double := by
  constructor
  intro room document a _ decoded
  cases document with
  | number n => rfl
  | _ => cases decoded

instance : Attentive unit := by
  constructor
  intro room document a _ decoded
  cases document with
  | null => rfl
  | _ => cases decoded

instance : Attentive any := ⟨fun coherent decoded => skip_of_anyValue coherent decoded⟩

instance (f : α → β) (d : Decoder α) [Attentive d] : Attentive (d.map f) := by
  constructor
  intro room document b coherent decoded
  obtain ⟨a, found, _⟩ := map_ok decoded
  exact Attentive.skips coherent found

instance (f : α → Except Fault β) (d : Decoder α) [Attentive d] : Attentive (d.refine f) := by
  constructor
  intro room document b coherent decoded
  obtain ⟨a, found, _⟩ := bind_ok decoded
  exact Attentive.skips coherent found

instance (d : Decoder α) [Attentive d] : Attentive d.option := by
  constructor
  intro room document a coherent decoded
  by_cases absent : document = .null
  · subst absent
    rfl
  · rw [option_decode absent] at decoded
    obtain ⟨b, found, _⟩ := map_ok decoded
    exact Attentive.skips coherent found

theorem skips_of_mapM (d : Decoder α) [Attentive d] {room : Nat} {items : List Document}
    {values : List α} (coherent : Document.ItemsCoherent items)
    (decoded : items.mapM (d.decode (.text room)) = .ok values) :
    ∀ item ∈ items, item.skip = .ok () := by
  induction items generalizing values with
  | nil => exact nofun
  | cons item items ih =>
    rw [List.mapM_cons] at decoded
    obtain ⟨first, found, decoded⟩ := bind_ok decoded
    obtain ⟨others, rest, _⟩ := bind_ok decoded
    exact List.forall_mem_cons.mpr ⟨Attentive.skips coherent.1 found, ih coherent.2 rest⟩

instance (d : Decoder α) [Attentive d] : Attentive d.list := by
  constructor
  intro room document values coherent decoded
  cases document with
  | array items ending =>
    obtain ⟨inner, entered, decoded⟩ := bind_ok decoded
    obtain ⟨less, rfl⟩ := enter_text entered
    obtain ⟨found, items, decoded⟩ := bind_ok decoded
    obtain ⟨_, ended, _⟩ := bind_ok decoded
    exact Document.skip_array_iff.mpr ⟨skips_of_mapM d coherent items, closed_of_used ended⟩
  | _ => cases decoded

instance (read : String → Except Fault α) : Attentive (fromText read) :=
  inferInstanceAs (Attentive (text.refine read))

instance : Attentive uint8 := inferInstanceAs (Attentive (Decoder.map ..))

instance : Attentive int32 := inferInstanceAs (Attentive (Decoder.map ..))

instance : Attentive instant := inferInstanceAs (Attentive (Decoder.refine ..))

instance : Attentive hex := inferInstanceAs (Attentive (fromText ..))

instance (first : Decoder α) (second : Decoder β) : Attentive (pair first second) :=
  inferInstanceAs (Attentive (any.list.refine _))

instance (setKey : String → α → α) (record : Decoder α) : Attentive (keyed setKey record) :=
  inferInstanceAs (Attentive ((pair text record).map _))

instance (setKey : String → α → α) (record : Decoder α) : Attentive (keyedList setKey record) :=
  inferInstanceAs (Attentive (any.list.option.refine _))

instance (family : Family γ α) : Attentive family.decoder :=
  inferInstanceAs (Attentive (any.refine _))

instance (family : Family γ α) : Attentive family.list :=
  inferInstanceAs (Attentive (any.option.refine _))

end Decoder

namespace Fields

variable {α β : Type}

class Attentive (f : Fields α) : Prop where
  put : ∀ {room : Nat} {slots after : f.Slots} {key : String} {document : Document},
    document.Coherent → f.put (.text room) slots key document = some (.ok after) →
      document.skip = .ok ()
  take : ∀ {room : Nat} {short : Nat → Fault} {items rest : List Document} {ending : ListEnd} {a : α},
    Document.ItemsCoherent items → f.take (.text room) short items ending = .ok (a, rest) →
      ∃ front, items = front ++ rest ∧ ∀ item ∈ front, item.skip = .ok ()

instance (value : α) : Attentive (make value) where
  put _ done := nomatch done
  take _ done := by
    cases done
    exact ⟨[], rfl, nofun⟩

instance (f : Fields (β → α)) [Attentive f] (name : String) (d : Decoder β) [d.Attentive]
    (absent : Option β) : Attentive (f.field name d absent) where
  put := by
    rintro room ⟨slots, slot⟩ after key document coherent done
    by_cases same : key = name
    · simp only [field, if_pos same, Option.some.injEq] at done
      cases slot with
      | some b => cases done
      | none =>
        obtain ⟨b, found, _⟩ := map_ok done
        exact Decoder.Attentive.skips coherent found
    · simp only [field, if_neg same, Option.map_eq_some_iff] at done
      obtain ⟨result, put, done⟩ := done
      obtain ⟨inner, rfl, _⟩ := map_ok done
      exact Attentive.put coherent put
  take := by
    intro room short items rest ending a coherent done
    obtain ⟨⟨g, left⟩, taken, next⟩ := bind_ok done
    clear done
    obtain ⟨front, rfl, passed⟩ := Attentive.take coherent taken
    cases left with
    | nil =>
      obtain ⟨_, _, next⟩ := bind_ok next
      cases absent with
      | none => cases next
      | some b =>
        cases next
        exact ⟨front, rfl, passed⟩
    | cons item left =>
      obtain ⟨b, found, next⟩ := bind_ok next
      cases next
      have known := ((Document.itemsCoherent_append _ _).mp coherent).2.1
      refine ⟨front ++ [item], by simp, fun other member => ?_⟩
      rcases List.mem_append.mp member with member | member
      · exact passed other member
      · rw [List.mem_singleton.mp member]
        exact Decoder.Attentive.skips known found

instance (f : Fields (β → α)) [Attentive f] (name : String) (d : Decoder β) [d.Attentive] :
    Attentive (f.required name d) := inferInstanceAs (Attentive (f.field ..))

instance (f : Fields (β → α)) [Attentive f] (name : String) (d : Decoder β) [d.Attentive]
    (absent : β) : Attentive (f.orElse name d absent) := inferInstanceAs (Attentive (f.field ..))

instance (f : Fields (Option β → α)) [Attentive f] (name : String) (d : Decoder β) [d.Attentive] :
    Attentive (f.optional name d) := inferInstanceAs (Attentive (f.field ..))

section Members

variable (f : Fields α) [Attentive f] {room : Nat} {slots : f.Slots}
  {members : List (Literal × Document)}

theorem skips_of_putAll {after : f.Slots} (coherent : Document.MembersCoherent members)
    (done : f.putAll (.text room) slots members = .ok after) :
    ∀ member ∈ members, member.1.skipped = .ok () ∧ member.2.skip = .ok () := by
  induction members generalizing slots with
  | nil => exact nofun
  | cons member members ih =>
    obtain ⟨literal, value⟩ := member
    obtain ⟨name, value, others⟩ := coherent
    obtain ⟨key, known, done⟩ := bind_ok done
    split at done
    · next put =>
      obtain ⟨next, rfl, done⟩ := bind_ok done
      have passed := Attentive.put value put
      exact List.forall_mem_cons.mpr ⟨⟨skipped_of_text name known, passed⟩, ih others done⟩
    · obtain ⟨_, passed, done⟩ := bind_ok done
      exact List.forall_mem_cons.mpr ⟨⟨skipped_of_text name known, sound_ok passed⟩, ih others done⟩

theorem skips_of_putOwn {after : f.Slots × List (String × Document)}
    (coherent : Document.MembersCoherent members)
    (done : f.putOwn (.text room) slots members = .ok after) :
    ∀ member ∈ members, member.1.skipped = .ok () ∧ member.2.skip = .ok () := by
  induction members generalizing slots after with
  | nil => exact nofun
  | cons member members ih =>
    obtain ⟨literal, value⟩ := member
    obtain ⟨name, value, others⟩ := coherent
    obtain ⟨key, known, done⟩ := bind_ok done
    split at done
    · next put =>
      obtain ⟨next, rfl, done⟩ := bind_ok done
      have passed := Attentive.put value put
      exact List.forall_mem_cons.mpr ⟨⟨skipped_of_text name known, passed⟩, ih others done⟩
    · obtain ⟨v, found, done⟩ := bind_ok done
      obtain ⟨_, rest, _⟩ := bind_ok done
      have passed := skip_of_anyValue value found
      exact List.forall_mem_cons.mpr ⟨⟨skipped_of_text name known, passed⟩, ih others rest⟩

end Members

end Fields

namespace Decoder

variable {α β : Type}

instance (name : String) (f : Fields α) [f.Attentive] : Attentive (record name f) := by
  constructor
  intro room document a coherent decoded
  cases document with
  | object members ending =>
    obtain ⟨inner, entered, decoded⟩ := bind_ok decoded
    obtain ⟨less, rfl⟩ := enter_text entered
    obtain ⟨slots, put, decoded⟩ := bind_ok decoded
    obtain ⟨_, ended, _⟩ := bind_ok decoded
    exact Document.skip_object_iff.mpr ⟨f.skips_of_putAll coherent put, closed_of_objectUsed ended⟩
  | array items ending =>
    obtain ⟨inner, entered, decoded⟩ := bind_ok decoded
    obtain ⟨less, rfl⟩ := enter_text entered
    obtain ⟨⟨value, others⟩, taken, decoded⟩ := bind_ok decoded
    obtain ⟨front, rfl, passed⟩ := Fields.Attentive.take coherent taken
    cases others with
    | nil =>
      obtain ⟨_, ended, _⟩ := bind_ok decoded
      rw [List.append_nil]
      exact Document.skip_array_iff.mpr ⟨passed, closed_of_stopped ended⟩
    | cons item others => cases decoded
  | _ => cases decoded

instance (name : String) (own : Fields (β → α)) [own.Attentive] (rest : Rest β) :
    Attentive (flattened name own rest) := by
  constructor
  intro room document a coherent decoded
  cases document with
  | object members ending =>
    obtain ⟨inner, entered, decoded⟩ := bind_ok decoded
    obtain ⟨less, rfl⟩ := enter_text entered
    obtain ⟨kept, put, decoded⟩ := bind_ok decoded
    obtain ⟨_, ended, _⟩ := bind_ok decoded
    exact Document.skip_object_iff.mpr ⟨own.skips_of_putOwn coherent put, closed_of_objectUsed ended⟩
  | _ => cases decoded

theorem refuses_torn (d : Decoder α) [Attentive d] {text : Bytes}
    (torn : (Document.read text).1.Torn) :
    ∃ fault, d.decode (.text textRoom) (Document.read text).1 = .error fault := by
  cases decoded : d.decode (.text textRoom) (Document.read text).1 with
  | error fault => exact ⟨fault, rfl⟩
  | ok a => exact absurd (Attentive.skips (Document.read_coherent text) decoded) torn

end Decoder

end TezosNode.Decode
