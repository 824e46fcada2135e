import Mathlib.Algebra.Order.Ring.Int
import TezosNode.Proofs.Decode.Lists
import TezosNode.Proofs.Model.Shown

/-!
The pools of the mempool. Each one holds what is listed under its own key, one operation for each item and
in the same order.
-/

namespace TezosNode

open Decode Json Decoder

def leadingText? : Value → Option String
  | .array (.string key :: _) => some key
  | _ => none

namespace Operation

def ownText? : Option Value → Option String
  | some (.string s) => some s
  | some _ => none
  | none => some ""

/-- The hash that an operation gives itself: under its name, or as the third of a list of fields. -/
def ownHash? : Value → Option String
  | .object members => ownText? (members.lookup "hash")
  | .array items => ownText? items[2]?
  | _ => none

theorem ownText?_of_entry {entry : Option Value} {s : String}
    (found : Entry text .value (some "") entry s) : ownText? entry = some s := by
  cases entry with
  | none =>
    cases found
    rfl
  | some v =>
    have same : v = .string s := text_decode_iff.mp found
    rw [same]
    rfl

theorem ownHash?_of_decoded {item : Value} {o : Operation} (decoded : decoder.ofValue item = .ok o) :
    ownHash? item = some o.hash := by
  cases item with
  | object pairs =>
    obtain ⟨hash, found, same⟩ := record_shows fields_tells_hash pairs o decoded
    rw [ownHash?, same]
    exact ownText?_of_entry found
  | array list =>
    obtain ⟨hash, found, same⟩ := record_items_shows fields_tells_hash decoded
    rw [ownHash?, same]
    exact ownText?_of_entry found
  | _ => cases decoded

end Operation

theorem leadingText?_of_keyed {α : Type} {setKey : String → α → α} {record : Decoder α} {hash : α → String}
    (told : ∀ key a, hash (setKey key a) = key) {item : Value} {x : α}
    (decoded : (keyed setKey record).ofValue item = .ok x) : leadingText? item = some (hash x) := by
  obtain ⟨key, o, rest, a, rfl, _, rfl⟩ := (keyed_decode_iff Source.value_boundless).mp decoded
  rw [told]
  rfl

/-- A pool that holds what is listed under its key, each operation with the hash that its item gives. -/
structure Pooled {α : Type} (key : String) (empty : Value → Prop) (decode : Value → Except Fault α)
    (hash : α → String) (hash? : Value → Option String) (members : List (String × Value))
    (pool : List α) : Prop where
  lists : IsListing empty (members.lookup key)
  each : List.Forall₂ (fun item x => decode item = .ok x ∧ hash? item = some (hash x)) (listed key members) pool

namespace Mempool

abbrev PooledApplied : List (String × Value) → List Operation → Prop :=
  Pooled "applied" (fun _ => False) Operation.decoder.ofValue Operation.hash Operation.ownHash?

abbrev PooledRefused (key : String) : List (String × Value) → List RefusedOperation → Prop :=
  Pooled key (· = .null) (keyed RefusedOperation.setHash RefusedOperation.decoder).ofValue
    (·.operation.hash) leadingText?

abbrev PooledUnprocessed : List (String × Value) → List Operation → Prop :=
  Pooled "unprocessed" (· = .null) (keyed Operation.setHash Operation.decoder).ofValue Operation.hash
    leadingText?

/-- How many operations are listed under the five keys. -/
def listedSize (members : List (String × Value)) : Nat :=
  (["applied", "refused", "branch_refused", "branch_delayed", "unprocessed"].map fun key =>
    (listed key members).length).sum

structure Complete (members : List (String × Value)) (m : Mempool) : Prop where
  applied : PooledApplied members m.applied
  refused : PooledRefused "refused" members m.refused
  branchRefused : PooledRefused "branch_refused" members m.branchRefused
  branchDelayed : PooledRefused "branch_delayed" members m.branchDelayed
  unprocessed : PooledUnprocessed members m.unprocessed
  size : m.size = listedSize members
  isEmpty : m.isEmpty = true ↔ listedSize members = 0

inductive Spoiled (members : List (String × Value)) : Prop where
  | applied {item : Value} {m : Fault} : item ∈ listed "applied" members →
      Operation.decoder.ofValue item = .error m → Spoiled members
  | refused {key : String} {item : Value} {m : Fault} :
      key ∈ ["refused", "branch_refused", "branch_delayed"] → item ∈ listed key members →
      (keyed RefusedOperation.setHash RefusedOperation.decoder).ofValue item = .error m → Spoiled members
  | unprocessed {item : Value} {m : Fault} : item ∈ listed "unprocessed" members →
      (keyed Operation.setHash Operation.decoder).ofValue item = .error m → Spoiled members

theorem pooledApplied {members : List (String × Value)} {pool : List Operation}
    (entry : Entry Operation.decoder.list .value (some []) (members.lookup "applied") pool) :
    PooledApplied members pool := by
  obtain ⟨lists, each⟩ := entry_list entry
  exact ⟨lists, each.imp fun item o decoded => ⟨decoded, Operation.ownHash?_of_decoded decoded⟩⟩

theorem pooled_keyed {α : Type} {key : String} {setKey : String → α → α} {record : Decoder α}
    {hash : α → String} (told : ∀ key a, hash (setKey key a) = key) {members : List (String × Value)}
    {pool : List α}
    (entry : Entry (keyedList setKey record) .value (some []) (members.lookup key) pool) :
    Pooled key (· = .null) (keyed setKey record).ofValue hash leadingText? members pool := by
  obtain ⟨lists, each⟩ := entry_wholly (wholly_keyedList setKey record) nofun entry
  exact ⟨lists, each.imp fun item x decoded => ⟨decoded, leadingText?_of_keyed told decoded⟩⟩

theorem complete_of_decoded {members : List (String × Value)} {m : Mempool}
    (decoded : decoder.ofValue (.object members) = .ok m) : Complete members m := by
  obtain ⟨_, first, rfl⟩ := decoder_shows_applied members m decoded
  obtain ⟨_, second, rfl⟩ := decoder_shows_refused members m decoded
  obtain ⟨_, third, rfl⟩ := decoder_shows_branchRefused members m decoded
  obtain ⟨_, fourth, rfl⟩ := decoder_shows_branchDelayed members m decoded
  obtain ⟨_, fifth, rfl⟩ := decoder_shows_unprocessed members m decoded
  have applied := pooledApplied first
  have refused : PooledRefused "refused" members m.refused := pooled_keyed (fun _ _ => rfl) second
  have branchRefused : PooledRefused "branch_refused" members m.branchRefused :=
    pooled_keyed (fun _ _ => rfl) third
  have branchDelayed : PooledRefused "branch_delayed" members m.branchDelayed :=
    pooled_keyed (fun _ _ => rfl) fourth
  have unprocessed : PooledUnprocessed members m.unprocessed := pooled_keyed (fun _ _ => rfl) fifth
  have size : m.size = listedSize members := by
    rw [Mempool.size, ← applied.each.length_eq, ← refused.each.length_eq, ← branchRefused.each.length_eq,
      ← branchDelayed.each.length_eq, ← unprocessed.each.length_eq]
    simp [listedSize, Nat.add_assoc]
  refine ⟨applied, refused, branchRefused, branchDelayed, unprocessed, size, ?_⟩
  rw [Mempool.isEmpty, size]
  exact decide_eq_true_iff

theorem refused_of_spoiled {members : List (String × Value)} (spoiled : Spoiled members) :
    ∃ fault, decoder.ofValue (.object members) = .error fault := by
  cases known : decoder.ofValue (.object members) with
  | error fault => exact ⟨fault, rfl⟩
  | ok m =>
    have complete := complete_of_decoded known
    have never {α : Type} {decode : Value → Except Fault α} {P : Value → α → Prop} {items : List Value}
        {xs : List α} (each : List.Forall₂ (fun item x => decode item = .ok x ∧ P item x) items xs)
        {item : Value} (member : item ∈ items) {fault : Fault} : decode item ≠ .error fault := by
      obtain ⟨x, _, found, _⟩ := exists_of_forall₂ each member
      rw [found]
      exact nofun
    cases spoiled with
    | applied member refused => exact absurd refused (never complete.applied.each member)
    | unprocessed member refused => exact absurd refused (never complete.unprocessed.each member)
    | refused key member refused =>
      simp only [List.mem_cons, List.not_mem_nil, or_false] at key
      rcases key with rfl | rfl | rfl
      · exact absurd refused (never complete.refused.each member)
      · exact absurd refused (never complete.branchRefused.each member)
      · exact absurd refused (never complete.branchDelayed.each member)

/-- Whatever mempool an object is decoded to, no operation that it lists is lost, repeated or moved to
another pool; where one of them is refused, so is the mempool. -/
theorem pools_complete (members : List (String × Value)) :
    (∀ m, decoder.ofValue (.object members) = .ok m → Complete members m) ∧
      (Spoiled members → ∃ fault, decoder.ofValue (.object members) = .error fault) :=
  ⟨fun _ => complete_of_decoded, refused_of_spoiled⟩

/-- Operations in three pools, with their own hashes and behind others; and one that stands alone in its item. -/
theorem pools_of_three :
    (∃ members m, decoder.ofValue (.object members) = .ok m ∧ Complete members m ∧ m.size = 4 ∧
      m.applied.map (·.hash) = ["first", ""] ∧ m.refused.map (·.operation.hash) = ["second"]) ∧
    ∃ members fault, Spoiled members ∧ decoder.ofValue (.object members) = .error fault := by
  refine ⟨⟨[("applied", .array [.object [("hash", .string "first")], .object []]),
      ("branch_delayed", .null),
      ("refused", .array [.array [.string "second", .object [("hash", .string "other")], .null]]),
      ("unprocessed", .array [.array [.string "third", .array []]])],
      _, rfl, (pools_complete _).1 _ rfl, rfl, rfl, rfl⟩, ?_⟩
  have spoiled : Spoiled
      [("refused", .array [.array [.string "second", .object []], .array [.string "alone"]])] :=
    .refused (.head _) (.tail _ (.head _)) rfl
  obtain ⟨fault, refused⟩ := (pools_complete _).2 spoiled
  exact ⟨_, fault, spoiled, refused⟩

end Mempool

end TezosNode
