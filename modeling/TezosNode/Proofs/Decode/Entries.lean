import TezosNode.Proofs.Decode.Growth

/-!
What a record shows of one of its fields: what is decoded from the member under its name, or from the item in
its place where the record comes as a list, and else what stands in for it.
-/

namespace TezosNode.Decode

open Json

variable {α β γ δ : Type}

/-- What a field is filled with, by what was found of it. -/
def Entry (d : Decoder β) (source : Source) (absent : Option β) : Option Value → β → Prop
  | none, b => absent = some b
  | some v, b => d.decode source (.ofValue v) = .ok b

namespace Fields

def reads (f : Fields α) (source : Source) (members : List (String × Value)) : Except Fault α := do
  f.finish (← f.fill source f.blank (buffered members))

theorem Filled.fill {f : Fields α} {source : Source} {filled : f.Slots} {members : List (String × Value)}
    (fills : f.fill source f.blank (buffered members) = .ok filled) : f.Filled filled := by
  rw [← f.putAll_ofMembers] at fills
  exact .putAll .blank fills

/-- Each field takes one item off a list that is long enough. -/
class Spends (f : Fields α) : Prop where
  rest_eq : ∀ {source : Source} {short : Nat → Fault} {items rest : List Document} {ending : ListEnd} {a : α},
    f.take source short items ending = .ok (a, rest) → rest = items.drop f.names.length

instance (a : α) : Spends (make a) := ⟨fun taken => (Prod.mk.inj (Except.ok.inj taken)).2.symm⟩

instance (f : Fields (β → α)) [Spends f] (name : String) (d : Decoder β) (absent : Option β) :
    Spends (f.field name d absent) := by
  constructor
  intro source short items rest ending a taken
  obtain ⟨⟨g, left⟩, first, taken⟩ := bind_ok taken
  have behind : left = items.drop f.names.length := Spends.rest_eq first
  have one : (f.field name d absent).names.length = f.names.length + 1 := List.length_append
  rw [one, ← List.drop_drop, ← behind]
  cases left with
  | nil =>
    obtain ⟨_, _, taken⟩ := bind_ok taken
    cases absent <;> cases taken
    rfl
  | cons item left =>
    obtain ⟨b, _, taken⟩ := bind_ok taken
    cases taken
    rfl

instance (f : Fields (β → α)) [Spends f] (name : String) (d : Decoder β) : Spends (f.required name d) :=
  inferInstanceAs (Spends (f.field ..))

instance (f : Fields (β → α)) [Spends f] (name : String) (d : Decoder β) (absent : β) :
    Spends (f.orElse name d absent) := inferInstanceAs (Spends (f.field ..))

instance (f : Fields (Option β → α)) [Spends f] (name : String) (d : Decoder β) :
    Spends (f.optional name d) := inferInstanceAs (Spends (f.field ..))

/-- Whatever is read shows what was found of this field, under its name or in its place. -/
structure Tells (f : Fields α) (name : String) (index : Nat) (d : Decoder β) (absent : Option β)
    (shown : α → β → Prop) : Prop where
  members : ∀ {source : Source} {members : List (String × Value)} {a : α},
    f.reads source members = .ok a → ∃ b, Entry d source absent (members.lookup name) b ∧ shown a b
  items : ∀ {source : Source} {short : Nat → Fault} {items : List Value} {a : α} {rest : List Document},
    f.take source short (items.map .ofValue) .closed = .ok (a, rest) →
      ∃ b, Entry d source absent items[index]? b ∧ shown a b

section

variable {f : Fields (β → α)} {name : String} {d : Decoder β} {absent : Option β} {source : Source}

theorem lookup_of_empty {members : List (String × Value)}
    (fits : Fits d source name none ((buffered members).filter (·.1 = name)) none) :
    members.lookup name = none := by
  generalize known : (buffered members).filter (·.1 = name) = found at fits
  cases fits with
  | absent =>
    apply lookup_of_not_mem
    rw [← keys_buffered]
    intro there
    obtain ⟨member, present, same⟩ := List.mem_map.mp there
    exact absurd same (by simpa using List.filter_eq_nil_iff.mp known member present)

theorem Tells.last [f.Lawful] [f.Spends] (fresh : name ∉ f.names) {shown : α → β → Prop}
    (holds : f.Holds fun g => ∀ b, shown (g b) b) :
    (f.field name d absent).Tells name f.names.length d absent shown where
  members := by
    intro source members a done
    obtain ⟨⟨slots, slot⟩, fills, finished⟩ := bind_ok done
    obtain ⟨others, fits⟩ := (fill_field_iff fresh).mp fills
    obtain ⟨g, made, finished⟩ := bind_ok finished
    have all := holds.filled slots g (.fill others) made
    cases slot with
    | some b =>
      cases finished
      obtain ⟨v, stands, decoded⟩ := fits_some_iff.mp fits
      rw [lookup_of_filter stands]
      exact ⟨b, decoded, all b⟩
    | none =>
      rw [lookup_of_empty fits]
      cases absent with
      | none => cases finished
      | some b =>
        cases finished
        exact ⟨b, rfl, all b⟩
  items := by
    intro source short items a rest taken
    obtain ⟨⟨g, left⟩, first, taken⟩ := bind_ok taken
    have all := holds.taken source short _ _ g left first
    -- the fields before it took one item each, so its own one is the next
    have behind : left = (items.map .ofValue).drop f.names.length := Spends.rest_eq first
    have head : left.head? = items[f.names.length]?.map .ofValue := by
      rw [behind, List.head?_drop, List.getElem?_map]
    cases left with
    | nil =>
      obtain ⟨_, _, taken⟩ := bind_ok taken
      rw [Option.map_eq_none_iff.mp head.symm]
      cases absent with
      | none => cases taken
      | some b =>
        cases taken
        exact ⟨b, rfl, all b⟩
    | cons item left =>
      obtain ⟨b, decoded, taken⟩ := bind_ok taken
      cases taken
      obtain ⟨v, there, rfl⟩ := Option.map_eq_some_iff.mp head.symm
      rw [there]
      exact ⟨b, decoded, all b⟩

end

theorem Tells.later {f : Fields (δ → α)} [f.Lawful] {name other : String} {index : Nat} {d : Decoder β}
    {absent : Option β} {e : Decoder δ} {absent' : Option δ} (fresh : other ∉ f.names)
    {shown : α → β → Prop} (tells : f.Tells name index d absent fun g b => ∀ c, shown (g c) b) :
    (f.field other e absent').Tells name index d absent shown where
  members := by
    intro source members a done
    obtain ⟨⟨slots, slot⟩, fills, finished⟩ := bind_ok done
    obtain ⟨others, _⟩ := (fill_field_iff fresh).mp fills
    obtain ⟨g, made, finished⟩ := bind_ok finished
    have read : f.reads source members = .ok g := by
      rw [reads, others]
      exact made
    obtain ⟨b, entry, all⟩ := tells.members read
    cases known : slot <|> absent' with
    | none => simp [known] at finished
    | some c =>
      simp only [known] at finished
      cases finished
      exact ⟨b, entry, all c⟩
  items := by
    intro source short items a rest taken
    obtain ⟨⟨g, left⟩, first, taken⟩ := bind_ok taken
    obtain ⟨b, entry, all⟩ := tells.items first
    refine ⟨b, entry, ?_⟩
    cases left with
    | nil =>
      obtain ⟨_, _, taken⟩ := bind_ok taken
      cases absent' with
      | none => cases taken
      | some c =>
        cases taken
        exact all c
    | cons item left =>
      obtain ⟨c, _, taken⟩ := bind_ok taken
      cases taken
      exact all c

end Fields

namespace Decoder

theorem record_reads (name : String) (f : Fields α) {source : Source} (boundless : source.Boundless)
    (members : List (String × Value)) :
    (record name f).decode source (.ofValue (.object members)) = f.reads source members := by
  obtain ⟨inner, entered, _, whole⟩ := record_object name f members (boundless.allows _)
  cases entered.symm.trans boundless
  exact whole

theorem record_items (name : String) (f : Fields α) {source : Source} (boundless : source.Boundless)
    (items : List Value) :
    (record name f).decode source (.ofValue (.array items)) = (do
      let taken ← f.take source (fun n => .wrongLength n (.fields name f.names.length)) (items.map .ofValue)
        .closed
      if taken.2.isEmpty then pure taken.1
      else .error (tooLong source items.length f.names.length)) := by
  have entered : source.enter = .ok source := boundless
  have size : (items.map Document.ofValue).length = items.length := List.length_map _
  rw [Document.ofValue, Document.ofItems_eq_map, ← size]
  simp only [record, entered]
  change (f.take source _ (items.map .ofValue) .closed >>= _) = (f.take source _ (items.map .ofValue) .closed >>= _)
  cases f.take source _ (items.map .ofValue) .closed with
  | error fault => rfl
  | ok taken =>
    obtain ⟨a, others⟩ := taken
    cases others <;> rfl

theorem flattened_reads (name : String) (own : Fields (γ → α)) [own.Lawful] (part : Fields γ) [part.Lawful]
    (apart : ∀ key ∈ part.names, key ∉ own.names) {source : Source} (boundless : source.Boundless)
    (members : List (String × Value)) :
    (flattened name own (.fields part)).decode source (.ofValue (.object members)) = (do
      let make ← own.reads source members
      let c ← part.reads .buffered members
      pure (make c)) := by
  obtain ⟨inner, entered, _, whole⟩ := flattened_object name own part apart members (boundless.allows _)
  cases entered.symm.trans boundless
  rw [whole, Fields.reads, Fields.reads]
  cases own.fill source own.blank (buffered members) with
  | error fault => rfl
  | ok slots =>
    change (own.finish slots >>= _) = (own.finish slots >>= _)
    cases own.finish slots with
    | error fault => rfl
    | ok make =>
      change (part.fill .buffered part.blank (buffered members) >>= _) = _
      cases part.fill .buffered part.blank (buffered members) <;> rfl

/-- Whatever an object is decoded to shows what was found of this member. -/
def Shows (whole : Decoder α) (key : String) (d : Decoder β) (absent : Option β) (shown : α → β → Prop) : Prop :=
  ∀ members a, whole.ofValue (.object members) = .ok a →
    ∃ b, Entry d .value absent (members.lookup key) b ∧ shown a b

section

variable {name key : String} {f : Fields α} {index : Nat} {d : Decoder β} {absent : Option β}
  {shown : α → β → Prop}

theorem record_shows (tells : f.Tells key index d absent shown) :
    (record name f).Shows key d absent shown := by
  intro members a decoded
  rw [ofValue, record_reads name f Source.value_boundless] at decoded
  exact tells.members decoded

theorem record_items_shows (tells : f.Tells key index d absent shown) {items : List Value} {a : α}
    (decoded : (record name f).ofValue (.array items) = .ok a) :
    ∃ b, Entry d .value absent items[index]? b ∧ shown a b := by
  rw [ofValue, record_items name f Source.value_boundless] at decoded
  obtain ⟨⟨b, rest⟩, taken, decoded⟩ := bind_ok decoded
  split at decoded
  · cases decoded
    exact tells.items taken
  · cases decoded

theorem flattened_shows {own : Fields (γ → α)} [own.Lawful] {part : Fields γ} [part.Lawful]
    (apart : ∀ key ∈ part.names, key ∉ own.names)
    (tells : own.Tells key index d absent fun make b => ∀ c, shown (make c) b) :
    (flattened name own (.fields part)).Shows key d absent shown := by
  intro members a decoded
  rw [ofValue, flattened_reads name own part apart Source.value_boundless] at decoded
  obtain ⟨make, read, decoded⟩ := bind_ok decoded
  obtain ⟨c, _, decoded⟩ := bind_ok decoded
  cases decoded
  obtain ⟨b, entry, all⟩ := tells.members read
  exact ⟨b, entry, all c⟩

end

end Decoder

end TezosNode.Decode
