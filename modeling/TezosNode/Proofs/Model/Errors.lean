import TezosNode.Model.ErrorRecord
import TezosNode.Proofs.Decode.Leftovers

namespace TezosNode.ErrorRecord

open Decode Json Decoder Fields

/-- A record as it is read: its class by its name, the other members as they are kept. -/
structure Proper (e : ErrorRecord) : Prop where
  named : ErrorClass.ofName e.kind.name = e.kind
  leftover : Leftover ["kind", "id"] e.extra

theorem proper_of_reaches {e : ErrorRecord} (reaches : decoder.Reaches e) : e.Proper := by
  refine reaches.members (P := Proper) ?_
  refine .free (.field ?_)
  refine .make fun kind found _ extra leftover => ⟨?_, leftover⟩
  rcases found with read | absent
  · obtain ⟨name, _, rfl⟩ := read.map
    rw [ErrorClass.name_ofName]
  · cases absent

theorem Proper.keeps {e : ErrorRecord} (proper : e.Proper) : decoder.Keeps e.toValue e := by
  have kind : ErrorClass.decoder.Keeps (.string e.kind.name) e.kind :=
    (keeps_text e.kind.name).map proper.named
  exact keeps_members [("kind", .string e.kind.name), ("id", .string e.id)] "NodeError" rfl (by decide)
    proper.leftover <| (Answers.make _ _)
      |>.required (by rfl) kind
      |>.required (by rfl) (keeps_text e.id)

theorem faithful : decoder.Faithful toValue := fun _ reaches => (proper_of_reaches reaches).keeps

theorem listDecoder_ok {source : Source} {document : Document} {es : List ErrorRecord}
    (decoded : listDecoder.decode source document = .ok es) :
    decoder.list.decode .buffered document = .ok es ∨
      ∃ e, es = [e] ∧ decoder.decode .buffered document = .ok e := by
  obtain ⟨_, _, decoded⟩ := bind_ok decoded
  cases many : decoder.list.decode .buffered document with
  | ok records =>
    rw [many] at decoded
    cases decoded
    exact .inl rfl
  | error fault =>
    cases one : decoder.decode .buffered document with
    | ok record =>
      rw [many, one] at decoded
      cases decoded
      exact .inr ⟨record, rfl, rfl⟩
    | error other =>
      rw [many, one] at decoded
      cases decoded

/-- For a value that may be read there is only one fault, whatever is wrong with it. -/
theorem listDecoder_error {source : Source} {v : Value} (allows : source.Allows v.depth) {fault : Fault}
    (refused : listDecoder.decode source (.ofValue v) = .error fault) : fault = .neitherOneNorMany := by
  simp only [listDecoder, anyValue_ofValue v allows] at refused
  cases many : decoder.list.decode .buffered (.ofValue v) with
  | ok records =>
    rw [many] at refused
    cases refused
  | error _ =>
    cases one : decoder.decode .buffered (.ofValue v) with
    | ok record =>
      rw [many, one] at refused
      cases refused
    | error _ =>
      rw [many, one] at refused
      cases refused
      rfl

theorem keeps_listDecoder {es : List ErrorRecord} (all : ∀ e ∈ es, decoder.Keeps e.toValue e) :
    listDecoder.Keeps (listToValue es) es := by
  intro form source allows
  have whole : anyValue source (.ofValue (form.apply (listToValue es))) =
      .ok (listToValue es).sorted := keeps_any (listToValue es) form source allows
  have list : decoder.list.decode .buffered (.ofValue (form.apply (listToValue es))) = .ok es :=
    keeps_list all form .buffered trivial
  simp only [listDecoder, whole, list]
  rfl

theorem keeps_nil : listDecoder.Keeps (listToValue []) [] := keeps_listDecoder nofun

theorem faithful_list : listDecoder.Faithful listToValue := by
  rintro es ⟨source, document, decoded⟩
  refine keeps_listDecoder fun e member => faithful e ?_
  rcases listDecoder_ok decoded with many | ⟨record, rfl, one⟩
  · exact Reaches.list ⟨.buffered, document, many⟩ e member
  · cases List.mem_singleton.mp member
    exact ⟨.buffered, document, one⟩

end TezosNode.ErrorRecord
