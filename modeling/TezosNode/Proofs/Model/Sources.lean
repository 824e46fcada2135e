import TezosNode.Model.Network
import TezosNode.Proofs.Decode.Agreement
import TezosNode.Proofs.Model.ErrorTexts
import TezosNode.Proofs.Model.Variants

namespace TezosNode

open Decode Json Decoder

namespace Decode.Decoder

variable {α β γ : Type}

instance (read : String → Except Fault α) : Agrees (fromText read) :=
  inferInstanceAs (Agrees (text.refine read))

instance : Agrees int32 := inferInstanceAs (Agrees (Decoder.map ..))

instance : Agrees uint8 := inferInstanceAs (Agrees (Decoder.map ..))

instance : Agrees uint32 := inferInstanceAs (Agrees (Decoder.map ..))

instance : Agrees instant := inferInstanceAs (Agrees (Decoder.refine ..))

instance : Agrees hex := inferInstanceAs (Agrees (fromText ..))

instance (first : Decoder α) (second : Decoder β) : Agrees (pair first second) :=
  inferInstanceAs (Agrees (any.list.refine _))

instance (setKey : String → α → α) (record : Decoder α) : Agrees (keyedList setKey record) :=
  inferInstanceAs (Agrees (any.list.option.refine _))

instance (family : Family γ α) : Agrees family.decoder := inferInstanceAs (Agrees (any.refine _))

instance (family : Family γ α) : Agrees family.list := inferInstanceAs (Agrees (any.option.refine _))

end Decode.Decoder

instance : Agrees Amount.decoder := inferInstanceAs (Agrees (fromText _))

namespace ErrorRecord

instance : Agrees ErrorClass.decoder := inferInstanceAs (Agrees (text.map _))

instance : Agrees decoder := inferInstanceAs (Agrees (flattened _ _ .members))

theorem listDecoder_toOption {source : Source} {v : Value} (allows : source.Allows v.depth) :
    (listDecoder.decode source (.ofValue v)).toOption =
      (decoder.list.decode .buffered (.ofValue v)).toOption.or
        ((decoder.decode .buffered (.ofValue v)).toOption.map ([·])) := by
  simp only [listDecoder, anyValue_ofValue v allows]
  cases decoder.list.decode .buffered (.ofValue v) with
  | ok records => rfl
  | error fault => cases decoder.decode .buffered (.ofValue v) <;> rfl

instance : Agrees listDecoder := by
  constructor
  intro source v distinct allows
  have opened : Source.value.Allows v.sorted.depth := trivial
  rw [ofValue, listDecoder_toOption allows, listDecoder_toOption opened, Agrees.buffered _ distinct,
    Agrees.buffered _ distinct]

end ErrorRecord

instance : Agrees BalanceUpdate.decoder := inferInstanceAs (Agrees BalanceUpdate.family.decoder)

instance : Agrees Content.decoder := inferInstanceAs (Agrees Content.family.decoder)

instance : Agrees ManagerResult.decoder := inferInstanceAs (Agrees (record ..))

instance : Operation.fields.Lawful := inferInstanceAs (Fields.Lawful (Fields.orElse ..))

instance : Operation.fields.Agrees := inferInstanceAs (Fields.Agrees (Fields.orElse ..))

instance : Operation.fields.Commutes := inferInstanceAs (Fields.Commutes (Fields.orElse ..))

instance : Agrees Operation.decoder := inferInstanceAs (Agrees (record ..))

instance : Agrees RefusedOperation.decoder := agrees_flattened _ _ _ (by decide)

instance : Agrees Mempool.decoder := inferInstanceAs (Agrees (record ..))

instance : Agrees BlockHead.decoder := inferInstanceAs (Agrees (record ..))

instance : Agrees BlockHeader.decoder := inferInstanceAs (Agrees (record ..))

instance : Agrees TestChain.decoder := inferInstanceAs (Agrees TestChain.family.decoder)

instance : Agrees OperationLimit.decoder := inferInstanceAs (Agrees (record ..))

instance : Agrees BlockLevel.decoder := inferInstanceAs (Agrees (record ..))

instance : Agrees BlockMetadata.decoder := inferInstanceAs (Agrees (record ..))

instance : Agrees Block.decoder := inferInstanceAs (Agrees (record ..))

instance : Agrees RefusedBlock.decoder := inferInstanceAs (Agrees (record ..))

instance : Agrees PeerTime.decoder := inferInstanceAs (Agrees (Decoder.map ..))

instance : Agrees PointState.decoder := inferInstanceAs (Agrees (record ..))

instance : Agrees Point.decoder := inferInstanceAs (Agrees (record ..))

namespace Decode.Decoder

variable {α : Type}

def Matches (d : Decoder α) (text : Bytes) (v : Value) : Prop :=
  ∀ a, d.ofText text = .ok a ↔ d.ofValue v = .ok a

theorem ok_iff_of_toOption {first second : Except Fault α} (same : first.toOption = second.toOption)
    (a : α) : first = .ok a ↔ second = .ok a := by
  cases first with
  | ok b =>
    cases second with
    | ok c => rw [Option.some.inj same]
    | error fault => cases same
  | error fault =>
    cases second with
    | ok c => cases same
    | error other => exact ⟨nofun, nofun⟩

theorem Agrees.matches (d : Decoder α) [Agrees d] {text : Bytes} {v : Value}
    (parsed : any.ofText text = .ok v) (distinct : (Document.read text).1.Distinct) :
    d.Matches text v := by
  obtain ⟨w, transcribes, rfl⟩ := any_ofText_iff.mp parsed
  rw [transcribes.whole] at distinct
  have same := Agrees.agrees (d := d) (.text textRoom) w distinct transcribes.allows
  rw [← transcribes.ofText] at same
  exact ok_iff_of_toOption same

end Decode.Decoder

/-- A text in which no object repeats a key is decoded as the value it is read as. -/
theorem text_matches_value {text : Bytes} {v : Value} (parsed : any.ofText text = .ok v)
    (distinct : (Document.read text).1.Distinct) :
    Block.decoder.Matches text v ∧ BlockHead.decoder.Matches text v ∧
      RefusedBlock.decoder.Matches text v ∧ Operation.decoder.Matches text v ∧
      RefusedOperation.decoder.Matches text v ∧ Content.decoder.Matches text v ∧
      BalanceUpdate.decoder.Matches text v ∧ TestChain.decoder.Matches text v ∧
      ManagerResult.decoder.Matches text v ∧ ErrorRecord.listDecoder.Matches text v ∧
      Mempool.decoder.Matches text v ∧ Point.decoder.Matches text v := by
  have agree {α : Type} (d : Decoder α) [Agrees d] : d.Matches text v := Agrees.matches d parsed distinct
  exact ⟨agree _, agree _, agree _, agree _, agree _, agree _, agree _, agree _, agree _, agree _,
    agree _, agree _⟩

/-- A refused block whose members stand in another order than in its value, with one error. -/
theorem text_matches_value_refused_block :
    RefusedBlock.decoder.ofText (Bytes.ofString ("\x7b\"level\":7,\"error\":\x7b\"kind\":\"branch\"," ++
      "\"z\":null,\"id\":\"proto.x\",\"a\":[]\x7d,\"block\":\"B\"\x7d")) =
      .ok ⟨"B", 7, [⟨.branch, "proto.x", [("a", .array []), ("z", .null)]⟩]⟩ := by
  have parsed : any.ofText (Bytes.ofString ("\x7b\"level\":7,\"error\":\x7b\"kind\":\"branch\"," ++
      "\"z\":null,\"id\":\"proto.x\",\"a\":[]\x7d,\"block\":\"B\"\x7d")) =
      .ok (.object [("block", .string "B"),
        ("error", .object [("a", .array []), ("id", .string "proto.x"), ("kind", .string "branch"),
          ("z", .null)]),
        ("level", .integer 7)]) := rfl
  have distinct : Value.Distinct (.object [("level", .integer 7),
      ("error", .object [("kind", .string "branch"), ("z", .null), ("id", .string "proto.x"),
        ("a", .array [])]),
      ("block", .string "B")]) := by
    simp [Value.Distinct, Document.ofValue, Document.ofMembers, Document.ofItems, Document.Distinct,
      Document.MembersDistinct, Document.ItemsDistinct, Literal.ofString, Value.integer]
  exact ((text_matches_value parsed distinct).2.2.1 _).mpr rfl

end TezosNode
