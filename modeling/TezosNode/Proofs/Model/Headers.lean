import TezosNode.Model.BlockHeader
import TezosNode.Proofs.Decode.Scalars
import TezosNode.Proofs.Decode.Sheets

namespace TezosNode

open Decode Json Decoder Fields

theorem optionalMember_eq {α : Type} (key : String) (write : α → Value) (a? : Option α) :
    optionalMember key write a? = Sheet.members [(key, a?.map write)] := by
  cases a? <;> rfl

theorem keeps_texts (texts : List String) : text.list.Keeps (textsToValue texts) texts :=
  keeps_list fun s _ => keeps_text s

theorem keeps_fitness (fitness : List Bytes) : hex.list.Keeps (fitnessToValue fitness) fitness :=
  keeps_list fun bytes _ => keeps_hex bytes

namespace BlockHead

theorem keeps {b : BlockHead} (stamp : Decoder.instant.Keeps (.string b.timestamp.text) b.timestamp) :
    decoder.Keeps b.toValue b :=
  keeps_full "BlockInfo" rfl (by decide) <| (Answers.make _ _)
    |>.orElse (by rfl) (keeps_text b.hash)
    |>.orElse (by rfl) (keeps_int32 b.level)
    |>.orElse (by rfl) (keeps_uint8 b.proto)
    |>.orElse (by rfl) (keeps_text b.predecessor)
    |>.orElse (by rfl) stamp
    |>.orElse (by rfl) (keeps_uint8 b.validationPass)
    |>.orElse (by rfl) (keeps_text b.operationsHash)
    |>.orElse (by rfl) (keeps_fitness b.fitness)
    |>.orElse (by rfl) (keeps_text b.context)
    |>.orElse (by rfl) (keeps_text b.protocolData)

theorem faithful : decoder.Faithful toValue := by
  refine faithful_record (.free (.free (.free (.free (.free ?_)))))
  refine .orElse faithful_instant keeps_instant_default ?_
  refine .free (.free (.free (.free ?_)))
  exact .make fun _ _ _ _ _ stamp _ _ _ _ _ => keeps stamp

end BlockHead

namespace BlockHeader

def sheet (b : BlockHeader) : Sheet :=
  Sheet.full [
    ("level", .integer b.level.toInt),
    ("proto", .integer b.proto.toNat),
    ("predecessor", .string b.predecessor),
    ("timestamp", .string b.timestamp.text),
    ("validation_pass", .integer b.validationPass.toNat),
    ("operations_hash", .string b.operationsHash),
    ("fitness", fitnessToValue b.fitness),
    ("context", .string b.context),
    ("priority", .integer b.priority.toInt),
    ("proof_of_work_nonce", .string (Text.hexOf b.proofOfWorkNonce))] ++
    [("seed_nonce_hash", b.seedNonceHash.map .string)] ++
    Sheet.full [("signature", .string b.signature)]

theorem toValue_eq (b : BlockHeader) : b.toValue = .object b.sheet.members := by
  simp only [toValue, sheet, Sheet.members_append, Sheet.members_full, optionalMember_eq]

theorem keeps {b : BlockHeader} (stamp : Decoder.instant.Keeps (.string b.timestamp.text) b.timestamp) :
    decoder.Keeps b.toValue b :=
  keeps_record "RawBlockHeader" b.toValue_eq rfl (by decide) <| (Answers.make _ _)
    |>.orElse (by rfl) (keeps_int32 b.level)
    |>.orElse (by rfl) (keeps_uint8 b.proto)
    |>.orElse (by rfl) (keeps_text b.predecessor)
    |>.orElse (by rfl) stamp
    |>.orElse (by rfl) (keeps_uint8 b.validationPass)
    |>.orElse (by rfl) (keeps_text b.operationsHash)
    |>.orElse (by rfl) (keeps_fitness b.fitness)
    |>.orElse (by rfl) (keeps_text b.context)
    |>.orElse (by rfl) (keeps_int32 b.priority)
    |>.orElse (by rfl) (keeps_hex b.proofOfWorkNonce)
    |>.optional (by rfl) (fun s _ => ⟨keeps_text s, nofun⟩)
    |>.orElse (by rfl) (keeps_text b.signature)

theorem keeps_blank : decoder.Keeps blank.toValue blank := keeps keeps_instant_default

theorem faithful : decoder.Faithful toValue := by
  refine faithful_record (.free (.free (.free (.free (.free (.free (.free (.free ?_))))))))
  refine .orElse faithful_instant keeps_instant_default ?_
  refine .free (.free (.free ?_))
  exact .make fun _ _ _ _ stamp _ _ _ _ _ _ _ _ => keeps stamp

end BlockHeader

end TezosNode
