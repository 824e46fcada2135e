import TezosNode.Proofs.Decode.Growth
import TezosNode.Proofs.Decode.Keeping

namespace TezosNode.Decode

open Json

variable {α β : Type}

namespace Decoder

theorem any_list_array {source : Source} (boundless : source.Boundless) (items : List Value) :
    any.list.decode source (.ofValue (.array items)) = .ok (items.map Value.sorted) := by
  rw [list_array any boundless, Document.ofItems_eq_map, mapM_ok_iff, List.forall₂_map_left_iff,
    List.forall₂_map_right_iff, List.forall₂_same]
  intro item _
  exact anyValue_ofValue item (boundless.allows item.depth)

theorem list_other (d : Decoder α) {v : Value} (other : ∀ items, v ≠ .array items) (source : Source) :
    d.list.decode source (.ofValue v) = .error (mismatch .sequence (.ofValue v)) := by
  cases v with
  | array items => exact absurd rfl (other items)
  | _ => rfl

section

variable (first : Decoder α) (second : Decoder β) {source : Source}

theorem pair_two (boundless : source.Boundless) (x y : Value) (rest : List Value) :
    (pair first second).decode source (.ofValue (.array (x :: y :: rest))) = (do
      let a ← (first.ofValue x.sorted).mapError (.position 0)
      let b ← (second.ofValue y.sorted).mapError (.position 1)
      pure (a, b)) := by
  change (any.list.decode source (.ofValue (.array (x :: y :: rest)))).bind _ = _
  rw [any_list_array boundless]
  rfl

theorem pair_short (boundless : source.Boundless) {items : List Value} (short : items.length < 2) :
    (pair first second).decode source (.ofValue (.array items)) = .error (.shortPair items.length) := by
  change (any.list.decode source (.ofValue (.array items))).bind _ = _
  rw [any_list_array boundless]
  match items, short with
  | [], _ => rfl
  | [_], _ => rfl

theorem pair_other {v : Value} (other : ∀ items, v ≠ .array items) :
    (pair first second).decode source (.ofValue v) = .error (mismatch .sequence (.ofValue v)) := by
  change (any.list.decode source (.ofValue v)).bind _ = _
  rw [list_other any other]
  rfl

end

theorem two_or_fewer (v : Value) : (∃ x y rest, v = .array (x :: y :: rest)) ∨
    (∃ items, v = .array items ∧ items.length < 2) ∨ ∀ items, v ≠ .array items := by
  cases v with
  | array items =>
    rcases items with _ | ⟨x, _ | ⟨y, rest⟩⟩
    · exact .inr (.inl ⟨[], rfl, Nat.two_pos⟩)
    · exact .inr (.inl ⟨[x], rfl, Nat.one_lt_two⟩)
    · exact .inl ⟨x, y, rest, rfl⟩
  | _ => exact .inr (.inr nofun)

/-- Why a value is no pair. Of two positions that are refused the first one is told. -/
inductive Unpaired (first : Decoder α) (second : Decoder β) : Value → Fault → Prop where
  | other {v : Value} : (∀ items, v ≠ .array items) →
      Unpaired first second v (mismatch .sequence (.ofValue v))
  | short {items : List Value} : items.length < 2 →
      Unpaired first second (.array items) (.shortPair items.length)
  | first {x y : Value} {rest : List Value} {m : Fault} : first.ofValue x.sorted = .error m →
      Unpaired first second (.array (x :: y :: rest)) (.position 0 m)
  | second {x y : Value} {rest : List Value} {a : α} {m : Fault} : first.ofValue x.sorted = .ok a →
      second.ofValue y.sorted = .error m → Unpaired first second (.array (x :: y :: rest)) (.position 1 m)

section

variable {first : Decoder α} {second : Decoder β} {source : Source} {v : Value}

theorem pair_decode_iff (boundless : source.Boundless) {a : α} {b : β} :
    (pair first second).decode source (.ofValue v) = .ok (a, b) ↔ ∃ x y rest, v = .array (x :: y :: rest) ∧
      first.ofValue x.sorted = .ok a ∧ second.ofValue y.sorted = .ok b := by
  constructor
  · intro decoded
    rcases two_or_fewer v with ⟨x, y, rest, rfl⟩ | ⟨items, rfl, short⟩ | other
    · rw [pair_two first second boundless] at decoded
      obtain ⟨a, found, decoded⟩ := bind_ok decoded
      obtain ⟨b, behind, decoded⟩ := bind_ok decoded
      cases decoded
      exact ⟨x, y, rest, rfl, mapError_ok found, mapError_ok behind⟩
    · rw [pair_short first second boundless short] at decoded
      cases decoded
    · rw [pair_other first second other] at decoded
      cases decoded
  · rintro ⟨x, y, rest, rfl, found, behind⟩
    rw [pair_two first second boundless, found, behind]
    rfl

theorem pair_error_iff (boundless : source.Boundless) {fault : Fault} :
    (pair first second).decode source (.ofValue v) = .error fault ↔ Unpaired first second v fault := by
  constructor
  · intro refused
    rcases two_or_fewer v with ⟨x, y, rest, rfl⟩ | ⟨items, rfl, short⟩ | other
    · rw [pair_two first second boundless] at refused
      rcases bind_error refused with named | ⟨a, found, refused⟩
      · obtain ⟨m, faulty, rfl⟩ := mapError_error named
        exact .first faulty
      · rcases bind_error refused with named | ⟨b, _, done⟩
        · obtain ⟨m, faulty, rfl⟩ := mapError_error named
          exact .second (mapError_ok found) faulty
        · cases done
    · rw [pair_short first second boundless short] at refused
      cases refused
      exact .short short
    · rw [pair_other first second other] at refused
      cases refused
      exact .other other
  · intro unpaired
    cases unpaired with
    | other other => exact pair_other first second other
    | short short => exact pair_short first second boundless short
    | first refused =>
      rw [pair_two first second boundless, refused]
      rfl
    | second found refused =>
      rw [pair_two first second boundless, found, refused]
      rfl

/-- A record behind its key is the record, with the key in its place. -/
theorem keyed_behind (setKey : String → α → α) (record : Decoder α) (boundless : source.Boundless)
    (key : String) (o : Value) (rest : List Value) :
    (keyed setKey record).decode source (.ofValue (.array (.string key :: o :: rest))) =
      ((record.ofValue o.sorted).mapError (.position 1)).map (setKey key) := by
  change ((pair text record).decode source (.ofValue (.array (.string key :: o :: rest)))).map _ = _
  rw [pair_two text record boundless]
  cases record.ofValue o.sorted <;> rfl

theorem keyed_decode_iff {setKey : String → α → α} {record : Decoder α} (boundless : source.Boundless)
    {x : α} : (keyed setKey record).decode source (.ofValue v) = .ok x ↔
      ∃ key o rest a, v = .array (.string key :: o :: rest) ∧ record.ofValue o.sorted = .ok a ∧
        x = setKey key a := by
  change ((pair text record).decode source (.ofValue v)).map _ = _ ↔ _
  constructor
  · intro decoded
    obtain ⟨⟨key, a⟩, found, rfl⟩ := map_ok decoded
    obtain ⟨k, o, rest, rfl, named, behind⟩ := (pair_decode_iff boundless).mp found
    have same : k = .string key := by
      cases k <;> cases text_decode_iff.mp named
      rfl
    exact ⟨key, o, rest, a, by rw [same], behind, rfl⟩
  · rintro ⟨key, o, rest, a, rfl, behind, rfl⟩
    rw [(pair_decode_iff (a := key) (b := a) boundless).mpr ⟨_, o, rest, rfl, rfl, behind⟩]
    rfl

theorem keyed_error_iff {setKey : String → α → α} {record : Decoder α} (boundless : source.Boundless)
    {fault : Fault} : (keyed setKey record).decode source (.ofValue v) = .error fault ↔
      Unpaired text record v fault := by
  rw [← pair_error_iff boundless]
  change ((pair text record).decode source (.ofValue v)).map _ = _ ↔ _
  cases (pair text record).decode source (.ofValue v) <;> simp [Except.map]

end

/-- What becomes of a value where a pair is wanted. -/
structure PairLaws (first : Decoder α) (second : Decoder β) (v : Value) : Prop where
  decoded : ∀ a b, (pair first second).ofValue v = .ok (a, b) ↔ ∃ x y rest,
    v = .array (x :: y :: rest) ∧ first.ofValue x.sorted = .ok a ∧ second.ofValue y.sorted = .ok b
  refused : ∀ fault, (pair first second).ofValue v = .error fault ↔ Unpaired first second v fault
  behind : ∀ x y rest others, v = .array (x :: y :: rest) →
    (pair first second).ofValue v = (pair first second).ofValue (.array (x :: y :: others))

theorem pairLaws (first : Decoder α) (second : Decoder β) (v : Value) : PairLaws first second v where
  decoded _ _ := pair_decode_iff Source.value_boundless
  refused _ := pair_error_iff Source.value_boundless
  behind := by
    rintro x y rest others rfl
    have two := pair_two first second Source.value_boundless x y
    exact (two rest).trans (two others).symm

theorem keeps_pair {first : Decoder α} {second : Decoder β} {v w : Value} {a : α} {b : β}
    (reads : first.Keeps v a) (reads' : second.Keeps w b) (same : v.sorted = v) (same' : w.sorted = w) :
    (pair first second).Keeps (.array [v, w]) (a, b) := by
  have positions : any.list.Keeps (.array ([v, w].map id)) [v, w] := by
    refine keeps_list fun item member => ?_
    have fixed : item.sorted = item := by
      rcases List.mem_pair.mp member with rfl | rfl
      · exact same
      · exact same'
    have keeps := keeps_any item
    rwa [fixed] at keeps
  have decoded : first.ofValue v = .ok a := reads .written .value trivial
  have decoded' : second.ofValue w = .ok b := reads' .written .value trivial
  apply positions.refine
  simp only [decoded, decoded']
  rfl

end Decoder

end TezosNode.Decode
