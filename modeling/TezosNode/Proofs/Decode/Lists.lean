import TezosNode.Proofs.Decode.Entries
import TezosNode.Proofs.Decode.Pairs

namespace TezosNode.Decode

open Json

variable {α β γ : Type}

theorem exists_of_forall₂ {R : β → γ → Prop} {bs : List β} {cs : List γ} (each : List.Forall₂ R bs cs) {b : β}
    (member : b ∈ bs) : ∃ c ∈ cs, R b c := by
  obtain ⟨place, bound, rfl⟩ := List.getElem_of_mem member
  obtain ⟨same, all⟩ := List.forall₂_iff_get.mp each
  exact ⟨_, List.getElem_mem (same ▸ bound), all place bound (same ▸ bound)⟩

/-- An item is refused for a reason, and all items before it are decoded. -/
structure FirstRefused (decode : Value → Except Fault α) (items : List Value) (index : Nat)
    (m : Fault) : Prop where
  refused : ∃ item, items[index]? = some item ∧ decode item = .error m
  before : ∀ j < index, ∃ item a, items[j]? = some item ∧ decode item = .ok a

section

variable {decode : Value → Except Fault α} {item : Value} {items : List Value} {index : Nat} {m fault : Fault}

theorem firstRefused_zero_iff :
    FirstRefused decode (item :: items) 0 m ↔ decode item = .error m := by
  constructor
  · rintro ⟨⟨_, there, refused⟩, _⟩
    cases there
    exact refused
  · intro refused
    exact ⟨⟨item, rfl, refused⟩, nofun⟩

theorem firstRefused_succ_iff : FirstRefused decode (item :: items) (index + 1) m ↔
    (∃ a, decode item = .ok a) ∧ FirstRefused decode items index m := by
  constructor
  · rintro ⟨refused, before⟩
    obtain ⟨_, a, there, first⟩ := before 0 index.succ_pos
    cases there
    exact ⟨⟨a, first⟩, refused, fun j less => before (j + 1) (Nat.succ_lt_succ less)⟩
  · rintro ⟨⟨a, first⟩, refused, before⟩
    refine ⟨refused, fun j less => ?_⟩
    cases j with
    | zero => exact ⟨item, a, rfl, first⟩
    | succ j => exact before j (Nat.lt_of_succ_lt_succ less)

theorem firstRefused_append_iff {front back : List Value} :
    FirstRefused decode (front ++ item :: back) front.length m ↔
      (∀ v ∈ front, ∃ a, decode v = .ok a) ∧ decode item = .error m := by
  induction front with
  | nil => simpa using firstRefused_zero_iff
  | cons v front ih =>
    rw [List.cons_append, List.length_cons, firstRefused_succ_iff, ih, List.forall_mem_cons, and_assoc]

theorem FirstRefused.split (first : FirstRefused decode items index m) : ∃ front v back,
    items = front ++ v :: back ∧ index = front.length ∧ (∀ w ∈ front, ∃ a, decode w = .ok a) ∧
      decode v = .error m := by
  obtain ⟨v, there, _⟩ := first.refused
  obtain ⟨bound, rfl⟩ := List.getElem?_eq_some_iff.mp there
  have parts : items = items.take index ++ items[index] :: items.drop (index + 1) := by
    rw [List.getElem_cons_drop, List.take_append_drop]
  have place : index = (items.take index).length := by
    rw [List.length_take, Nat.min_eq_left (Nat.le_of_lt bound)]
  have whole : FirstRefused decode (items.take index ++ items[index] :: items.drop (index + 1))
      (items.take index).length m := by rwa [← parts, ← place]
  exact ⟨_, _, _, parts, place, firstRefused_append_iff.mp whole⟩

theorem mapM_error_iff : items.mapM decode = .error m ↔ ∃ i, FirstRefused decode items i m := by
  induction items with
  | nil =>
    constructor
    · exact nofun
    · rintro ⟨i, ⟨_, none, _⟩, _⟩
      cases none
  | cons item items ih =>
    rw [List.mapM_cons]
    constructor
    · intro refused
      rcases bind_error refused with faulty | ⟨a, found, refused⟩
      · exact ⟨0, firstRefused_zero_iff.mpr faulty⟩
      · rcases bind_error refused with later | ⟨_, _, done⟩
        · obtain ⟨i, first⟩ := ih.mp later
          exact ⟨i + 1, firstRefused_succ_iff.mpr ⟨⟨a, found⟩, first⟩⟩
        · cases done
    · rintro ⟨i, first⟩
      cases i with
      | zero =>
        rw [firstRefused_zero_iff.mp first]
        rfl
      | succ i =>
        obtain ⟨⟨a, found⟩, first⟩ := firstRefused_succ_iff.mp first
        rw [found]
        change (items.mapM decode >>= _) = _
        rw [ih.mpr ⟨i, first⟩]
        rfl

theorem elementsFrom_error_iff : elementsFrom index decode items = .error fault ↔
    ∃ i m, FirstRefused decode items i m ∧ fault = .element (index + i) m := by
  induction items generalizing index with
  | nil =>
    constructor
    · exact nofun
    · rintro ⟨i, m, ⟨⟨_, none, _⟩, _⟩, _⟩
      cases none
  | cons item items ih =>
    constructor
    · intro refused
      rcases bind_error refused with named | ⟨a, found, refused⟩
      · obtain ⟨m, faulty, rfl⟩ := mapError_error named
        exact ⟨0, m, firstRefused_zero_iff.mpr faulty, rfl⟩
      · rcases bind_error refused with later | ⟨_, _, done⟩
        · obtain ⟨i, m, first, rfl⟩ := ih.mp later
          refine ⟨i + 1, m, firstRefused_succ_iff.mpr ⟨⟨a, mapError_ok found⟩, first⟩, ?_⟩
          rw [Nat.add_assoc, Nat.add_comm 1 i]
        · cases done
    · rintro ⟨i, m, first, rfl⟩
      cases i with
      | zero =>
        rw [elementsFrom, firstRefused_zero_iff.mp first]
        rfl
      | succ i =>
        obtain ⟨⟨a, found⟩, first⟩ := firstRefused_succ_iff.mp first
        have later : elementsFrom (index + 1) decode items = .error (.element (index + (i + 1)) m) :=
          ih.mpr ⟨i, m, first, by rw [Nat.add_assoc, Nat.add_comm 1 i]⟩
        rw [elementsFrom, found]
        change (elementsFrom (index + 1) decode items >>= _) = _
        rw [later]
        rfl

theorem elementsFrom_map (decode : Value → Except Fault α) (g : Value → Value) (index : Nat)
    (items : List Value) :
    elementsFrom index decode (items.map g) = elementsFrom index (fun v => decode (g v)) items := by
  induction items generalizing index with
  | nil => rfl
  | cons item items ih => rw [List.map_cons, elementsFrom, elementsFrom, ih]

end

/-- What becomes of a value where a list is wanted, each element of which is decoded on its own. -/
structure Wholly (empty : Value → Prop) (list : Value → Except Fault (List α))
    (decode : Value → Except Fault α) : Prop where
  succeeds : ∀ v, (∃ xs, list v = .ok xs) ↔
    empty v ∨ ∃ items, v = .array items ∧ ∀ item ∈ items, ∃ x, decode item = .ok x
  decoded : ∀ items xs, list (.array items) = .ok xs →
    List.Forall₂ (fun item x => decode item = .ok x) items xs
  blank : ∀ v, empty v → list v = .ok []
  refused : ∀ items fault, list (.array items) = .error fault ↔
    ∃ i m, FirstRefused decode items i m ∧ fault = .element i m

theorem wholly_of_elements {empty : Value → Prop} {list : Value → Except Fault (List α)}
    {decode : Value → Except Fault α} (array : ∀ items, list (.array items) = elements decode items)
    (blank : ∀ v, empty v → list v = .ok [])
    (other : ∀ v, ¬empty v → (∀ items, v ≠ .array items) → ∃ fault, list v = .error fault) :
    Wholly empty list decode where
  succeeds := by
    intro v
    constructor
    · rintro ⟨xs, decoded⟩
      by_cases none : empty v
      · exact .inl none
      · by_cases listed : ∃ items, v = .array items
        · obtain ⟨items, rfl⟩ := listed
          rw [array] at decoded
          refine .inr ⟨items, rfl, fun item member => ?_⟩
          obtain ⟨x, _, found⟩ := exists_of_forall₂ (elementsFrom_iff.mp decoded) member
          exact ⟨x, found⟩
        · obtain ⟨fault, refused⟩ := other v none fun items same => listed ⟨items, same⟩
          cases refused.symm.trans decoded
    · rintro (none | ⟨items, rfl, all⟩)
      · exact ⟨[], blank v none⟩
      · cases known : elements decode items with
        | ok xs => exact ⟨xs, (array items).trans known⟩
        | error fault =>
          -- the item that is named would be refused
          obtain ⟨i, m, ⟨⟨item, there, refused⟩, _⟩, _⟩ := elementsFrom_error_iff.mp known
          obtain ⟨x, found⟩ := all item (List.mem_of_getElem? there)
          cases refused.symm.trans found
  decoded := by
    intro items xs decoded
    exact elementsFrom_iff.mp ((array items).symm.trans decoded)
  blank := blank
  refused := by
    intro items fault
    rw [array, elements, elementsFrom_error_iff]
    simp only [Nat.zero_add]

namespace Family

theorem wholly_listOfValue (family : Family γ α) :
    Wholly (fun _ => False) family.listOfValue family.ofValue := by
  apply wholly_of_elements (fun _ => rfl) nofun
  intro v _ other
  cases v with
  | array items => exact absurd rfl (other items)
  | _ => exact ⟨_, rfl⟩

section

variable (family : Family γ α) {source : Source}

theorem decoder_ofValue (boundless : source.Boundless) (v : Value) :
    family.decoder.decode source (.ofValue v) = family.ofValue v.sorted := by
  change (Decoder.any.decode source (.ofValue v) >>= family.ofValue) = _
  have whole : Decoder.any.decode source (.ofValue v) = .ok v.sorted :=
    anyValue_ofValue v (boundless.allows v.depth)
  rw [whole]
  rfl

theorem list_array (boundless : source.Boundless) (items : List Value) :
    family.list.decode source (.ofValue (.array items)) = elements family.decoder.ofValue items := by
  have each : family.decoder.ofValue = fun v => family.ofValue v.sorted :=
    funext (family.decoder_ofValue Source.value_boundless)
  have whole : Decoder.any.decode source (.ofValue (.array items)) = .ok (.array (items.map Value.sorted)) := by
    rw [← Value.sortedItems_eq_map]
    exact anyValue_ofValue (.array items) (boundless.allows _)
  have present : Value.array items ≠ .null := nofun
  change (Decoder.any.option.decode source (.ofValue (.array items)) >>= _) = _
  rw [Decoder.option_decode (ofValue_ne_null present), whole, each]
  exact elementsFrom_map family.ofValue Value.sorted 0 items

theorem list_other (boundless : source.Boundless) {v : Value} (present : v ≠ .null)
    (other : ∀ items, v ≠ .array items) :
    family.list.decode source (.ofValue v) = .error (mismatch .sequence (.ofValue v.sorted)) := by
  have whole : Decoder.any.decode source (.ofValue v) = .ok v.sorted :=
    anyValue_ofValue v (boundless.allows v.depth)
  change (Decoder.any.option.decode source (.ofValue v) >>= _) = _
  rw [Decoder.option_decode (ofValue_ne_null present), whole]
  cases v with
  | array items => exact absurd rfl (other items)
  | _ => rfl

end

theorem wholly_list (family : Family γ α) :
    Wholly (· = .null) family.list.ofValue family.decoder.ofValue := by
  apply wholly_of_elements (family.list_array Source.value_boundless)
  · rintro _ rfl
    rfl
  · intro v present other
    exact ⟨_, family.list_other Source.value_boundless present other⟩

end Family

namespace Decoder

section

variable (setKey : String → α → α) (record : Decoder α)

/-- What stands in an array of two and more is decoded as it is sorted. -/
theorem keyed_sorted (v : Value) :
    (keyed setKey record).ofValue v.sorted = (keyed setKey record).ofValue v := by
  have pairs : (pair text record).ofValue v.sorted = (pair text record).ofValue v := by
    rcases two_or_fewer v with ⟨x, y, rest, rfl⟩ | ⟨items, rfl, short⟩ | other
    · have two := pair_two text record Source.value_boundless
      have same : (Value.array (x :: y :: rest)).sorted =
          .array (x.sorted :: y.sorted :: rest.map Value.sorted) := by
        rw [Value.sorted, Value.sortedItems_eq_map]
        rfl
      rw [same]
      refine (two x.sorted y.sorted _).trans (Eq.trans ?_ (two x y rest).symm)
      rw [Value.sorted_sorted, Value.sorted_sorted]
    · have same : (Value.array items).sorted = .array (items.map Value.sorted) := by
        rw [Value.sorted, Value.sortedItems_eq_map]
      have sorted_short : (items.map Value.sorted).length < 2 := by rwa [List.length_map]
      rw [same]
      refine (pair_short text record Source.value_boundless sorted_short).trans
        (Eq.trans ?_ (pair_short text record Source.value_boundless short).symm)
      rw [List.length_map]
    · cases v with
      | array items => exact absurd rfl (other items)
      | _ => rfl
  change ((pair text record).ofValue v.sorted).map _ = ((pair text record).ofValue v).map _
  rw [pairs]

theorem keyedList_array {source : Source} (boundless : source.Boundless) (items : List Value) :
    (keyedList setKey record).decode source (.ofValue (.array items)) =
      elements (keyed setKey record).ofValue items := by
  have present : Value.array items ≠ .null := nofun
  change (any.list.option.decode source (.ofValue (.array items)) >>= _) = _
  rw [option_decode (ofValue_ne_null present), any_list_array boundless]
  have each : (fun v : Value => (keyed setKey record).ofValue v.sorted) = (keyed setKey record).ofValue :=
    funext (keyed_sorted setKey record)
  refine (elementsFrom_map (keyed setKey record).ofValue Value.sorted 0 items).trans ?_
  rw [each]
  rfl

theorem wholly_keyedList :
    Wholly (· = .null) (keyedList setKey record).ofValue (keyed setKey record).ofValue := by
  apply wholly_of_elements (keyedList_array setKey record Source.value_boundless)
  · rintro _ rfl
    rfl
  · intro v present other
    cases v with
    | array items => exact absurd rfl (other items)
    | null => exact absurd rfl present
    | _ => exact ⟨_, rfl⟩

end

theorem list_items (d : Decoder α) {source : Source} (boundless : source.Boundless) (items : List Value) :
    d.list.decode source (.ofValue (.array items)) = items.mapM fun v => d.decode source (.ofValue v) := by
  rw [list_array d boundless, Document.ofItems_eq_map, List.mapM_map]
  rfl

theorem list_decode_iff {d : Decoder α} {source : Source} (boundless : source.Boundless) {v : Value}
    {xs : List α} : d.list.decode source (.ofValue v) = .ok xs ↔ ∃ items, v = .array items ∧
      List.Forall₂ (fun item x => d.decode source (.ofValue item) = .ok x) items xs := by
  constructor
  · intro decoded
    cases v with
    | array items =>
      rw [list_array d boundless, Document.ofItems_eq_map, mapM_ok_iff, List.forall₂_map_left_iff] at decoded
      exact ⟨items, rfl, decoded⟩
    | _ => cases decoded
  · rintro ⟨items, rfl, each⟩
    rw [list_array d boundless, Document.ofItems_eq_map, mapM_ok_iff, List.forall₂_map_left_iff]
    exact each

end Decoder

def listed (key : String) (members : List (String × Value)) : List Value :=
  match members.lookup key with
  | some (.array items) => items
  | _ => []

def IsListing (empty : Value → Prop) : Option Value → Prop
  | some v => empty v ∨ ∃ items, v = .array items
  | none => True

section

variable {key : String} {members : List (String × Value)} {empty : Value → Prop} {xs : List α}

theorem entry_listed {list : Decoder (List α)} {R : Value → α → Prop}
    (apart : ∀ items, ¬empty (.array items))
    (read : ∀ v, list.ofValue v = .ok xs →
      empty v ∧ xs = [] ∨ ∃ items, v = .array items ∧ List.Forall₂ R items xs)
    (entry : Entry list .value (some []) (members.lookup key) xs) :
    IsListing empty (members.lookup key) ∧ List.Forall₂ R (listed key members) xs := by
  unfold listed
  cases known : members.lookup key with
  | none =>
    rw [known] at entry
    cases entry
    exact ⟨trivial, .nil⟩
  | some v =>
    rw [known] at entry
    rcases read v entry with ⟨blank, rfl⟩ | ⟨items, rfl, each⟩
    · cases v with
      | array items => exact absurd blank (apart items)
      | _ => exact ⟨.inl blank, .nil⟩
    · exact ⟨.inr ⟨items, rfl⟩, each⟩

theorem entry_list {d : Decoder α} (entry : Entry d.list .value (some []) (members.lookup key) xs) :
    IsListing (fun _ => False) (members.lookup key) ∧
      List.Forall₂ (fun item x => d.ofValue item = .ok x) (listed key members) xs :=
  entry_listed nofun (fun _ decoded => .inr ((Decoder.list_decode_iff Source.value_boundless).mp decoded))
    entry

theorem entry_wholly {list : Decoder (List α)} {decode : Value → Except Fault α}
    (wholly : Wholly empty list.ofValue decode) (apart : ∀ items, ¬empty (.array items))
    (entry : Entry list .value (some []) (members.lookup key) xs) :
    IsListing empty (members.lookup key) ∧
      List.Forall₂ (fun item x => decode item = .ok x) (listed key members) xs := by
  refine entry_listed apart (fun v decoded => ?_) entry
  rcases (wholly.succeeds v).mp ⟨xs, decoded⟩ with blank | ⟨items, rfl, _⟩
  · exact .inl ⟨blank, Except.ok.inj (decoded.symm.trans (wholly.blank v blank))⟩
  · exact .inr ⟨items, rfl, wholly.decoded items xs decoded⟩

end

end TezosNode.Decode
