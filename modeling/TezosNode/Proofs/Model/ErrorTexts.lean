import TezosNode.Proofs.Decode.Occurrences
import TezosNode.Proofs.Decode.Transcription
import TezosNode.Proofs.Model.Errors

namespace TezosNode.ErrorRecord

open Decode Json Decoder Fields

/-- An object with these members is this error record. -/
structure Spelled (members : List (String × Value)) (e : ErrorRecord) : Prop where
  kind : ∃ name, members.filter (·.1 = "kind") = [("kind", .string name)] ∧ e.kind = .ofName name
  id : members.filter (·.1 = "id") = [("id", .string e.id)]
  ordered : Ordered e.extra
  extra : ∀ key, e.extra.lookup key =
    if key ∈ ["kind", "id"] then none else (members.reverse.lookup key).map Value.sorted

inductive Stated : Value → ErrorRecord → Prop where
  | object {members e} : Spelled members e → Stated (.object members) e

/-- The value is one error record, or a list of these records. -/
inductive Listed : Value → List ErrorRecord → Prop where
  | one {v e} : Stated v e → Listed v [e]
  | many {items es} : List.Forall₂ Stated items es → Listed (.array items) es

def ownFields : Fields (List (String × Value) → ErrorRecord) :=
  (Fields.make ErrorRecord.mk)
    |>.required "kind" ErrorClass.decoder
    |>.required "id" Decoder.text

instance : ownFields.Lawful := inferInstanceAs (Fields.Lawful (Fields.required ..))

theorem kind_decode_iff {source : Source} {v : Value} {kind : ErrorClass} :
    ErrorClass.decoder.decode source (.ofValue v) = .ok kind ↔
      ∃ name, v = .string name ∧ kind = .ofName name := by
  constructor
  · intro decoded
    obtain ⟨name, found, rfl⟩ := map_ok decoded
    exact ⟨name, text_decode_iff.mp found, rfl⟩
  · rintro ⟨name, rfl, rfl⟩
    rfl

theorem decode_object (members : List (String × Value)) :
    decoder.decode .buffered (.ofValue (.object members)) = (do
      let slots ← ownFields.fill .buffered ownFields.blank (buffered members)
      let make ← ownFields.finish slots
      pure (make (sortMembers (Value.sortedValues (members.filter (·.1 ∉ ["kind", "id"])))))) := by
  have opened : Source.buffered.Allows (Value.membersDepth members + 1) := trivial
  obtain ⟨inner, entered, _, whole⟩ := flattened_members "NodeError" ownFields members opened
  cases entered
  exact whole

theorem ownFields_fill_iff {members : List (String × Value)} {kind : ErrorClass} {id : String} :
    ownFields.fill .buffered ownFields.blank (buffered members) = .ok (((), some kind), some id) ↔
      (∃ name, members.filter (·.1 = "kind") = [("kind", .string name)] ∧ kind = .ofName name) ∧
        members.filter (·.1 = "id") = [("id", .string id)] := by
  constructor
  · intro fills
    obtain ⟨inner, ids⟩ := (fill_field_iff (by decide)).mp fills
    obtain ⟨_, kinds⟩ := (fill_field_iff (by decide)).mp inner
    obtain ⟨v, stands, read⟩ := fits_some_iff.mp kinds
    obtain ⟨name, rfl, same⟩ := kind_decode_iff.mp read
    obtain ⟨w, once, written⟩ := fits_some_iff.mp ids
    cases text_decode_iff.mp written
    exact ⟨⟨name, stands, same⟩, once⟩
  · rintro ⟨⟨name, stands, same⟩, once⟩
    have read : ErrorClass.decoder.decode .buffered (.ofValue (.string name)) = .ok kind :=
      kind_decode_iff.mpr ⟨name, rfl, same⟩
    have written : Decoder.text.decode .buffered (.ofValue (.string id)) = .ok id := rfl
    refine (fill_field_iff (by decide)).mpr ⟨?_, fits_some_iff.mpr ⟨_, once, written⟩⟩
    exact (fill_field_iff (by decide)).mpr ⟨fill_make _ _ _, fits_some_iff.mpr ⟨_, stands, read⟩⟩

theorem decode_object_iff {members : List (String × Value)} {e : ErrorRecord} :
    decoder.decode .buffered (.ofValue (.object members)) = .ok e ↔ Spelled members e := by
  rw [decode_object]
  constructor
  · intro decoded
    obtain ⟨⟨⟨⟨⟩, kind?⟩, id?⟩, fills, decoded⟩ := bind_ok decoded
    obtain ⟨make, finished, decoded⟩ := bind_ok decoded
    cases decoded
    cases kind? with
    | none => cases finished
    | some kind =>
      cases id? with
      | none => cases finished
      | some id =>
        cases finished
        obtain ⟨stands, once⟩ := ownFields_fill_iff.mp fills
        exact ⟨stands, once, ordered_sortMembers _, lookup_leftover ["kind", "id"] members⟩
  · rintro ⟨stands, once, ordered, kept⟩
    obtain ⟨kind, id, extra⟩ := e
    have extras : extra = sortMembers (Value.sortedValues (members.filter (·.1 ∉ ["kind", "id"]))) := by
      refine ordered.ext (ordered_sortMembers _) fun key => ?_
      rw [lookup_leftover]
      exact kept key
    rw [ownFields_fill_iff.mpr ⟨stands, once⟩, extras]
    rfl

theorem decode_iff {v : Value} {e : ErrorRecord} :
    decoder.decode .buffered (.ofValue v) = .ok e ↔ Stated v e := by
  cases v with
  | object members =>
    rw [decode_object_iff]
    exact ⟨.object, fun ⟨spelled⟩ => spelled⟩
  | _ => exact ⟨nofun, nofun⟩

theorem decode_list_iff {items : List Value} {es : List ErrorRecord} :
    decoder.list.decode .buffered (.ofValue (.array items)) = .ok es ↔
      List.Forall₂ Stated items es := by
  have all : (Document.ofItems items).mapM (decoder.decode .buffered) = .ok es ↔
      List.Forall₂ Stated items es := by
    rw [mapM_ok_iff, Document.ofItems_eq_map, List.forall₂_map_left_iff]
    simp only [decode_iff]
  rw [← all]
  change (do let items ← (Document.ofItems items).mapM (decoder.decode .buffered); _) = _ ↔ _
  cases (Document.ofItems items).mapM (decoder.decode .buffered) <;> exact Iff.rfl

/-- A value that is JSON is taken for error records exactly if it is one record or a list of them. -/
theorem listDecoder_iff {source : Source} {v : Value} (allows : source.Allows v.depth)
    {es : List ErrorRecord} : listDecoder.decode source (.ofValue v) = .ok es ↔ Listed v es := by
  constructor
  · intro decoded
    rcases listDecoder_ok decoded with many | ⟨e, rfl, one⟩
    · cases v with
      | array items => exact .many (decode_list_iff.mp many)
      | _ => cases many
    · exact .one (decode_iff.mp one)
  · intro listed
    have known := anyValue_ofValue v allows
    simp only [listDecoder, known]
    cases listed with
    | one stated =>
      have no_list : ∃ fault, decoder.list.decode .buffered (.ofValue v) = .error fault := by
        cases stated
        exact ⟨_, rfl⟩
      obtain ⟨fault, many⟩ := no_list
      rw [many, decode_iff.mpr stated]
      rfl
    | many all =>
      rw [decode_list_iff.mpr all]
      rfl

end TezosNode.ErrorRecord
