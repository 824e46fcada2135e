import TezosNode.Decode.Family
import TezosNode.Proofs.Decode.Fields

/-!
Families of records. The shared fields are read twice, as a record of their own and as the flattened
part of a member; both readings come to the same, so that the tag alone says which member a value is.
-/

namespace TezosNode.Decode

open Json

variable {α β γ : Type}

/-- The source of a document makes no difference. -/
class Decoder.Steady (d : Decoder α) : Prop where
  decode_eq : ∀ source document, d.decode source document = d.decode .value document

instance : Decoder.Steady Decoder.text := ⟨fun _ _ => rfl⟩

instance : Decoder.Steady Decoder.quotedInt64 := ⟨fun _ _ => rfl⟩

namespace Fields

class Steady (f : Fields α) : Prop where
  put_eq : ∀ source slots key document,
    f.put source slots key document = f.put .value slots key document

instance (value : α) : Steady (make value) := ⟨fun _ _ _ _ => rfl⟩

instance (f : Fields (β → α)) [Steady f] (name : String) (d : Decoder β) [d.Steady] :
    Steady (f.required name d) := by
  constructor
  intro source slots key document
  have inner : f.put source slots.1 key document = f.put .value slots.1 key document :=
    Steady.put_eq source slots.1 key document
  have same : d.decode source document = d.decode .value document :=
    Decoder.Steady.decode_eq source document
  simp only [required, field, inner, same]

theorem fill_steady (f : Fields α) [Steady f] (source : Source) (slots : f.Slots)
    (members : List (String × Document)) :
    f.fill source slots members = f.fill .value slots members := by
  induction members generalizing slots with
  | nil => rfl
  | cons member members ih =>
    obtain ⟨key, document⟩ := member
    rw [fill, fill, Steady.put_eq source]
    cases f.put .value slots key document with
    | some filled =>
      cases filled with
      | error fault => rfl
      | ok slots => exact ih slots
    | none => exact ih slots

def Makes (f : Fields α) (P : α → Prop) : Prop := ∀ slots a, f.finish slots = .ok a → P a

theorem Makes.make {value : α} {P : α → Prop} (holds : P value) : (make value).Makes P := by
  intro slots a made
  cases made
  exact holds

theorem Makes.field {f : Fields (β → α)} {name : String} {d : Decoder β} {absent : Option β}
    {P : α → Prop} (makes : f.Makes fun g => ∀ b, P (g b)) : (f.field name d absent).Makes P := by
  rintro ⟨slots, slot⟩ a made
  obtain ⟨g, finished, made⟩ := bind_ok made
  cases known : slot <|> absent with
  | none => simp [known] at made
  | some b =>
    simp only [known] at made
    cases made
    exact makes slots g finished b

theorem Makes.required {f : Fields (β → α)} {name : String} {d : Decoder β} {P : α → Prop}
    (makes : f.Makes fun g => ∀ b, P (g b)) : (f.required name d).Makes P := makes.field

theorem Makes.orElse {f : Fields (β → α)} {name : String} {d : Decoder β} {absent : β} {P : α → Prop}
    (makes : f.Makes fun g => ∀ b, P (g b)) : (f.orElse name d absent).Makes P := makes.field

theorem Makes.optional {f : Fields (Option β → α)} {name : String} {d : Decoder β} {P : α → Prop}
    (makes : f.Makes fun g => ∀ b, P (g b)) : (f.optional name d).Makes P := makes.field

end Fields

theorem Decoder.flattened_shares {own : Fields (γ → α)} [own.Lawful] {part : Fields γ} [part.Lawful]
    [part.Steady] (apart : ∀ key ∈ part.names, key ∉ own.names) {shared : α → γ}
    (makes : own.Makes fun make => ∀ c, shared (make c) = c) {name whole : String} {v : Value} {x : α}
    (decoded : (flattened name own (.fields part)).ofValue v = .ok x) :
    (record whole part).ofValue v = .ok (shared x) := by
  cases v with
  | object members =>
    have value : Source.value.Allows (Value.membersDepth members + 1) := trivial
    obtain ⟨_, entered, _, flat⟩ := flattened_object name own part apart members value
    cases entered
    obtain ⟨_, entered, _, plain⟩ := record_object whole part members value
    cases entered
    rw [ofValue, flat] at decoded
    obtain ⟨slots, _, decoded⟩ := bind_ok decoded
    obtain ⟨make, made, decoded⟩ := bind_ok decoded
    obtain ⟨filled, fills, decoded⟩ := bind_ok decoded
    obtain ⟨c, finished, decoded⟩ := bind_ok decoded
    cases decoded
    rw [makes slots make made, ofValue, plain, ← part.fill_steady .buffered, fills]
    exact finished
  | _ => cases decoded

theorem Decoder.variant_shares {own : Fields (γ → β)} [own.Lawful] {part : Fields γ} [part.Lawful]
    [part.Steady] {name whole : String} {variant : β → α} (shared : β → γ)
    (apart : ∀ key ∈ part.names, key ∉ own.names)
    (makes : own.Makes fun make => ∀ c, shared (make c) = c) {v : Value} {x : α}
    (decoded : some (((flattened name own (.fields part)).ofValue v).map variant) = some (.ok x)) :
    ∃ b, x = variant b ∧ (record whole part).ofValue v = .ok (shared b) := by
  cases found : (flattened name own (.fields part)).ofValue v with
  | error fault =>
    rw [found] at decoded
    cases decoded
  | ok b =>
    rw [found] at decoded
    cases decoded
    exact ⟨b, rfl, flattened_shares apart makes found⟩

namespace Family

/-- Decoding a value is governed by its tag. `tagOf` is the tag of what comes of it, `variant?` what
is to come of it by its tag, and `own?` the tag that belongs to the kind of record it is. -/
structure Governed (family : Family γ α) (shared : α → γ) (tagOf : α → String)
    (own? : α → Option String) (variant? : String → Option (Except Fault α)) (v : Value) : Prop where
  refused : ∀ fault, family.common.ofValue v = .error fault → family.ofValue v = .error fault
  unregistered : ∀ c, family.common.ofValue v = .ok c → family.tag c ∉ family.names →
    family.ofValue v = .ok (family.other c)
  registered : ∀ c, family.common.ofValue v = .ok c → family.tag c ∈ family.names →
    variant? (family.tag c) = some (family.ofValue v)
  told : ∀ x, family.ofValue v = .ok x →
    family.common.ofValue v = .ok (shared x) ∧ tagOf x = family.tag (shared x) ∧
      own? x = if tagOf x ∈ family.names then some (tagOf x) else none

theorem lookup?_isSome (family : Family γ α) (tag : String) :
    (family.lookup? tag).isSome = true ↔ tag ∈ family.names := by
  simp [lookup?, names, List.find?_isSome]

theorem lookup?_of_not_mem (family : Family γ α) {tag : String} (unknown : tag ∉ family.names) :
    family.lookup? tag = none := by
  have missing := mt (family.lookup?_isSome tag).mp unknown
  rwa [Option.not_isSome_iff_eq_none] at missing

theorem governed (family : Family γ α) {shared : α → γ} {tagOf : α → String}
    {own? : α → Option String} {variant? : String → Option (Except Fault α)} {v : Value}
    (table : ∀ tag, variant? tag = (family.lookup? tag).map (·.ofValue v))
    (tagged : ∀ x, tagOf x = family.tag (shared x))
    (owned : ∀ tag x, variant? tag = some (.ok x) →
      own? x = some tag ∧ family.common.ofValue v = .ok (shared x))
    (other : ∀ c, own? (family.other c) = none ∧ shared (family.other c) = c) :
    family.Governed shared tagOf own? variant? v := by
  have unregistered (c : γ) (probed : family.common.ofValue v = .ok c)
      (unknown : family.tag c ∉ family.names) : family.ofValue v = .ok (family.other c) := by
    simp [ofValue, probed, family.lookup?_of_not_mem unknown, bind, Except.bind, pure, Except.pure]
  have registered (c : γ) (probed : family.common.ofValue v = .ok c)
      (known : family.tag c ∈ family.names) :
      variant? (family.tag c) = some (family.ofValue v) := by
    obtain ⟨member, row⟩ := Option.isSome_iff_exists.mp ((family.lookup?_isSome _).mpr known)
    rw [table, row]
    simp [ofValue, probed, row, bind, Except.bind]
  refine ⟨fun fault probed => ?_, unregistered, registered, fun x decoded => ?_⟩
  · rw [ofValue, probed]
    rfl
  · obtain ⟨c, probed, _⟩ := bind_ok decoded
    by_cases known : family.tag c ∈ family.names
    · have row := registered c probed known
      rw [decoded] at row
      obtain ⟨own, same⟩ := owned _ x row
      rw [probed, Except.ok.injEq] at same
      rw [tagged, ← same, if_pos known]
      exact ⟨probed, rfl, own⟩
    · rw [unregistered c probed known, Except.ok.injEq] at decoded
      rw [tagged, ← decoded, (other c).1, (other c).2, if_neg known]
      exact ⟨probed, rfl, rfl⟩

/-- What one value is decoded to is decoded from another where the record of its tag is, or, for a tag
that is not registered, what all records share. -/
theorem Governed.returns {family : Family γ α} {shared : α → γ} {tagOf : α → String}
    {own? : α → Option String} {before after : String → Option (Except Fault α)} {v w : Value} {x : α}
    (governed : family.Governed shared tagOf own? before v)
    (other : family.Governed shared tagOf own? after w) (decoded : family.ofValue v = .ok x)
    (registered : before (tagOf x) = some (.ok x) → own? x = some (tagOf x) →
      after (tagOf x) = some (.ok x) ∧ family.common.ofValue w = .ok (shared x))
    (unregistered : own? x = none →
      family.other (shared x) = x ∧ family.common.ofValue w = .ok (shared x)) :
    family.ofValue w = .ok x := by
  obtain ⟨probed, tagged, own⟩ := governed.told x decoded
  by_cases known : tagOf x ∈ family.names
  · have row := governed.registered _ probed (by rwa [← tagged])
    rw [decoded, ← tagged] at row
    obtain ⟨found, shares⟩ := registered row (by rw [own, if_pos known])
    have result := other.registered _ shares (by rwa [← tagged])
    rw [← tagged, found] at result
    exact (Option.some.inj result).symm
  · obtain ⟨same, shares⟩ := unregistered (by rw [own, if_neg known])
    rw [other.unregistered _ shares (by rwa [← tagged]), same]

end Family

end TezosNode.Decode
