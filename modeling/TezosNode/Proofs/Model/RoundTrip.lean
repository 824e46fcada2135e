import TezosNode.Proofs.Model.Blocks
import TezosNode.Proofs.Model.Freeform

/-! Records that come back as they were, once they are written and decoded again. -/

namespace TezosNode

open Decode Json

namespace Decode.Decoder

variable {α : Type}

/-- What is written is decoded to the value it was written for. As a text it may nest 127 deep, and no
number of its free parts is a double. -/
structure Returns (d : Decoder α) (written : Value) (free : List Value) (a : α) : Prop where
  value : ∀ form : Form, d.ofValue (form.apply written) = .ok a
  text : written.depth ≤ 127 → (∀ part ∈ free, part.isExact = true) →
    d.ofText (Bytes.ofString written.render) = .ok a

theorem ofText_render {d : Decoder α} {v : Value} (fits : v.isExact = true) :
    d.ofText (Bytes.ofString v.render) = d.decode (.text textRoom) (.ofValue v) := by
  rw [ofText, ofFront, Reader.read_chars fits]
  cases decoded : d.decode (.text textRoom) (.ofValue v) with
  | error fault =>
    simp only [decoded]
    rfl
  | ok a =>
    simp only [decoded]
    rfl

theorem Keeps.returns {d : Decoder α} {v : Value} {free : List Value} {a : α} (keeps : d.Keeps v a)
    (measured : v.isExact = free.all Value.isExact) : d.Returns v free a := by
  refine ⟨fun form => keeps form .value trivial, fun shallow parts => ?_⟩
  have fits : v.isExact = true := by
    rw [measured, List.all_eq_true]
    exact parts
  have room : v.depth < textRoom := Nat.lt_succ_of_le shallow
  rw [ofText_render fits]
  exact keeps .written (.text textRoom) room

theorem Faithful.returns {d : Decoder α} {write : α → Value} (faithful : d.Faithful write)
    {free : α → List Value} (measured : ∀ a, (write a).isExact = (free a).all Value.isExact) (a : α)
    (reaches : d.Reaches a) : d.Returns (write a) (free a) a := (faithful a reaches).returns (measured a)

/-- What is written is decoded to the value again: as it is, with its members sorted, and as a text. -/
structure Survives (d : Decoder α) (written : Value) (a : α) : Prop where
  value : ∀ form : Form, d.ofValue (form.apply written) = .ok a
  text : d.ofText (Bytes.ofString written.render) = .ok a

theorem Keeps.survives {d : Decoder α} {v : Value} {a : α} (keeps : d.Keeps v a)
    (exact : v.isExact = true) (shallow : v.depth ≤ 127) : d.Survives v a := by
  have returns : d.Returns v [] a := keeps.returns exact
  exact ⟨returns.value, returns.text shallow nofun⟩

end Decode.Decoder

open Decoder

/-- Whatever is decoded comes back, in the same variant and with the same fields. -/
theorem decoded_returns :
    (∀ c, Content.decoder.Reaches c → Content.decoder.Returns c.toValue c.freeform c) ∧
    (∀ u, BalanceUpdate.decoder.Reaches u → BalanceUpdate.decoder.Returns u.toValue [] u) ∧
    (∀ s, TestChain.decoder.Reaches s → TestChain.decoder.Returns s.toValue [] s) ∧
    (∀ o, Operation.decoder.Reaches o → Operation.decoder.Returns o.toValue o.freeform o) ∧
    (∀ r, RefusedOperation.decoder.Reaches r →
      RefusedOperation.decoder.Returns r.toValue r.freeform r) ∧
    (∀ b, Block.decoder.Reaches b → Block.decoder.Returns b.toValue b.freeform b) ∧
    (∀ b, BlockHead.decoder.Reaches b → BlockHead.decoder.Returns b.toValue [] b) ∧
    (∀ b, RefusedBlock.decoder.Reaches b → RefusedBlock.decoder.Returns b.toValue b.freeform b) := by
  refine ⟨?_, ?_, ?_, ?_, ?_, ?_, ?_, ?_⟩
  · exact Content.faithful.returns Content.toValue_isExact
  · exact BalanceUpdate.faithful.returns BalanceUpdate.toValue_isExact
  · exact TestChain.faithful.returns TestChain.toValue_isExact
  · exact Operation.faithful.returns Operation.toValue_isExact
  · exact RefusedOperation.faithful.returns RefusedOperation.toValue_isExact
  · exact Block.faithful.returns Block.toValue_isExact
  · exact BlockHead.faithful.returns BlockHead.toValue_isExact
  · exact RefusedBlock.faithful.returns RefusedBlock.toValue_isExact

/-- A vote whose metadata are free, from a value with its members in another order. -/
theorem decoded_returns_ballot :
    Content.decoder.ofText (Bytes.ofString ("\x7b\"kind\":\"ballot\",\"source\":\"tz1\",\"period\":3," ++
      "\"proposal\":\"Pt\",\"ballot\":\"yay\",\"metadata\":[null,-7]\x7d")) =
      .ok (.ballot ⟨⟨"ballot"⟩, "tz1", 3, "Pt", "yay", some (.array [.null, .integer (-7)])⟩) := by
  have reaches : Content.decoder.Reaches
      (.ballot ⟨⟨"ballot"⟩, "tz1", 3, "Pt", "yay", some (.array [.null, .integer (-7)])⟩) :=
    ⟨.value, .ofValue (.object [("period", .integer 3), ("ballot", .string "yay"),
      ("metadata", .array [.null, .integer (-7)]), ("source", .string "tz1"),
      ("kind", .string "ballot"), ("proposal", .string "Pt")]), rfl⟩
  exact (decoded_returns.1 _ reaches).text (by decide) (by decide)

end TezosNode
