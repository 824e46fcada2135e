import TezosNode.Proofs.Model.ErrorTexts

namespace TezosNode.ErrorRecord

open Decode Json Decoder

theorem listed_single (members : List (String × Value)) (es : List ErrorRecord) :
    Listed (.array [.object members]) es ↔ Listed (.object members) es := by
  constructor
  · rintro (stated | all)
    · cases stated
    · cases all with
      | cons stated none =>
        cases none
        exact .one stated
  · rintro (stated | all)
    exact .many (.cons stated .nil)

theorem value_allows (v : Value) : Source.value.Allows v.depth := trivial

theorem listDecoder_ofValue_iff {v : Value} {es : List ErrorRecord} :
    listDecoder.ofValue v = .ok es ↔ Listed v es := listDecoder_iff (value_allows v)

theorem listDecoder_single (members : List (String × Value)) :
    listDecoder.ofValue (.array [.object members]) = listDecoder.ofValue (.object members) := by
  have only {v : Value} {fault : Fault} (refused : listDecoder.ofValue v = .error fault) :
      fault = .neitherOneNorMany := listDecoder_error (value_allows v) refused
  have same (es : List ErrorRecord) : listDecoder.ofValue (.array [.object members]) = .ok es ↔
      listDecoder.ofValue (.object members) = .ok es := by
    rw [listDecoder_ofValue_iff, listDecoder_ofValue_iff]
    exact listed_single members es
  cases one : listDecoder.ofValue (.object members) with
  | ok es => exact (same es).mpr one
  | error fault =>
    cases many : listDecoder.ofValue (.array [.object members]) with
    | ok es => cases one.symm.trans ((same es).mp many)
    | error other => rw [only one, only many]

def members (e : ErrorRecord) : List (String × Value) :=
  [("kind", .string e.kind.name), ("id", .string e.id)] ++ e.extra

theorem Spelled.lookup_members {given : List (String × Value)} {e : ErrorRecord} (spelled : Spelled given e)
    (key : String) : (e.members.lookup key).map Value.sorted = (given.reverse.lookup key).map Value.sorted := by
  obtain ⟨name, stands, named⟩ := spelled.kind
  by_cases kind : key = "kind"
  · subst kind
    rw [reverse_lookup_of_filter stands, ← ErrorClass.name_ofName name, ← named]
    rfl
  · by_cases id : key = "id"
    · subst id
      rw [reverse_lookup_of_filter spelled.id]
      rfl
    · have other : e.members.lookup key = e.extra.lookup key := by
        rw [members, List.cons_append, List.cons_append, lookup_member, if_neg kind, lookup_member, if_neg id,
          List.nil_append]
      rw [other, spelled.extra key, if_neg (by simp [kind, id]), Option.map_map]
      exact congrArg (Option.map · _) (funext Value.sorted_sorted)

/-- What is written for a record is the object it was read from, with all members and the value of each. -/
theorem Spelled.sorted_toValue {given : List (String × Value)} {e : ErrorRecord} (spelled : Spelled given e) :
    e.toValue.sorted = (Value.object given).sorted := by
  have reaches : decoder.Reaches e := ⟨.buffered, .ofValue (.object given), decode_object_iff.mpr spelled⟩
  have leftover : Leftover ["kind", "id"] e.extra := (proper_of_reaches reaches).leftover
  have nodup : (e.members.map (·.1)).Nodup := leftover.nodup rfl (by decide)
  have written : e.toValue = .object e.members := rfl
  rw [written, Value.sorted, Value.sorted]
  refine congrArg Value.object ((ordered_sortMembers _).ext (ordered_sortMembers _) fun key => ?_)
  rw [lookup_sortMembers (by rwa [Value.keys_sortedValues]), Value.lookup_sortedValues, lookup_sorted]
  exact spelled.lookup_members key

def asList : Value → Value
  | .array items => .array items
  | v => .array [v]

theorem Stated.sorted_toValue {v : Value} {e : ErrorRecord} (stated : Stated v e) :
    e.toValue.sorted = v.sorted := by
  cases stated with
  | object spelled => exact spelled.sorted_toValue

theorem sorted_of_stated {items : List Value} {es : List ErrorRecord} (stated : List.Forall₂ Stated items es) :
    (listToValue es).sorted = (Value.array items).sorted := by
  have all : es.map (·.toValue.sorted) = items.map Value.sorted := by
    induction stated with
    | nil => rfl
    | cons first _ ih => rw [List.map_cons, List.map_cons, ih, first.sorted_toValue]
  rw [listToValue, Value.sorted, Value.sorted, Value.sortedItems_eq_map, Value.sortedItems_eq_map,
    List.map_map]
  exact congrArg Value.array all

theorem Listed.sorted_listToValue {v : Value} {es : List ErrorRecord} (listed : Listed v es) :
    (listToValue es).sorted = (asList v).sorted := by
  cases listed with
  | one stated =>
    cases stated with
    | object spelled => exact sorted_of_stated (.cons (.object spelled) .nil)
  | many stated => exact sorted_of_stated stated

/-- A single record is the list of it, and whatever list is read comes back as it was: written it is what was
read, but for the order of members, and reading it gives it again. -/
theorem one_format :
    (∀ members, listDecoder.ofValue (.array [.object members]) = listDecoder.ofValue (.object members) ∧
      ∀ es, listDecoder.ofValue (.object members) = .ok es → ∃ e, es = [e] ∧ Spelled members e) ∧
    (∀ v es, listDecoder.ofValue v = .ok es → (listToValue es).sorted = (asList v).sorted) ∧
    ∀ es, listDecoder.Reaches es → ∀ form : Form, listDecoder.ofValue (form.apply (listToValue es)) = .ok es := by
  refine ⟨fun members => ⟨listDecoder_single members, ?_⟩, ?_, ?_⟩
  · intro es decoded
    cases listDecoder_ofValue_iff.mp decoded with
    | one stated =>
      cases stated with
      | object spelled => exact ⟨_, rfl, spelled⟩
  · intro v es decoded
    exact (listDecoder_ofValue_iff.mp decoded).sorted_listToValue
  · intro es reaches form
    exact faithful_list es reaches form .value trivial

/-- A record of a class without a meaning of its own, with members before and between those that have a
name. -/
theorem one_format_deprecated :
    let members := [("with", .array [.null]), ("kind", .string "deprecated"), ("amount", .string "7"),
      ("id", .string "proto.x")]
    let e : ErrorRecord := ⟨.other "deprecated", "proto.x", [("amount", .string "7"), ("with", .array [.null])]⟩
    listDecoder.ofValue (.object members) = .ok [e] ∧ Spelled members e ∧
      (listToValue [e]).sorted = (Value.array [.object members]).sorted ∧
      listDecoder.ofValue (listToValue [e]) = .ok [e] := by
  intro members e
  have decoded : listDecoder.ofValue (.object members) = .ok [e] := by rfl
  obtain ⟨single, verbatim, returns⟩ := one_format
  obtain ⟨_, same, spelled⟩ := (single members).2 [e] decoded
  cases same
  exact ⟨decoded, spelled, verbatim _ _ decoded, returns [e] ⟨.value, _, decoded⟩ .written⟩

end TezosNode.ErrorRecord
