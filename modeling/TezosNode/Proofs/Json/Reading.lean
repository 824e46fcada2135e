import TezosNode.Decode.Basic
import TezosNode.Proofs.Json.Grammar

namespace TezosNode

namespace Json

theorem Reader.run_blank {blank : Bytes} (blanks : Blank blank) (rest : Bytes) :
    Reader.run {} (blank ++ rest) = Reader.run {} rest := by
  induction blank with
  | nil => rfl
  | cons b blank ih =>
    have both : Ascii.isJsonBlank b = true ∧ Blank blank := by simpa [Blank] using blanks
    have stays : Reader.step {} b = .more {} := by simp [Reader.step, Reader.stepValue, both.1]
    rw [List.cons_append, Reader.run, stays]
    exact ih both.2

theorem Document.read_blank {blank : Bytes} (blanks : Blank blank) (text : Bytes) :
    Document.read (blank ++ text) = Document.read text := Reader.run_blank blanks text

theorem Reader.run_suffix (reader : Reader) (bs : Bytes) : (reader.run bs).2 <:+ bs := by
  induction bs generalizing reader with
  | nil => exact List.suffix_refl _
  | cons b bs ih =>
    rw [run]
    cases reader.step b with
    | more reader => exact (ih reader).trans (List.suffix_cons b bs)
    | value document within =>
      cases within with
      | true => exact List.suffix_cons b bs
      | false => exact List.suffix_refl _
    | broken document => exact List.nil_suffix

theorem Reader.stepValue_ne_value (stack : List Frame) (b : UInt8) (document : Document)
    (within : Bool) : stepValue stack b ≠ .value document within := by
  unfold stepValue
  iterate 10
    refine iteInduction (motive := (· ≠ Step.value document within)) (fun _ => ?_) fun _ => ?_
    · exact nofun
  exact nofun

theorem Document.read_less {text : Bytes} (some : text ≠ []) :
    (Document.read text).2.length < text.length := by
  cases text with
  | nil => exact absurd rfl some
  | cons b text =>
    rw [read, Reader.run]
    cases step : Reader.step {} b with
    | more reader => exact Nat.lt_succ_of_le (reader.run_suffix text).length_le
    | value document within => exact absurd step (Reader.stepValue_ne_value [] b document within)
    | broken document => exact Nat.zero_lt_succ _

end Json

theorem Decode.Decoder.ofText_blank {α : Type} (d : Decoder α) {blank : Bytes}
    (blanks : Json.Blank blank) (text : Bytes) : d.ofText (blank ++ text) = d.ofText text := by
  unfold ofText ofFront
  rw [Json.Document.read_blank blanks]

section

variable {α : Type} {d : Decode.Decoder α} {text rest : Bytes} {a : α}

theorem Decode.Decoder.rest_of_ofFront (found : d.ofFront text = .ok (a, rest)) :
    rest = (Json.Document.read text).2 := by
  unfold ofFront at found
  cases decoded : d.decode (.text textRoom) (Json.Document.read text).1 with
  | error fault => simp [decoded, bind, Except.bind] at found
  | ok value =>
    simp only [decoded, bind, Except.bind, pure, Except.pure, Except.ok.injEq,
      Prod.mk.injEq] at found
    exact found.2.symm

theorem Decode.Decoder.ofFront_suffix (found : d.ofFront text = .ok (a, rest)) :
    ∃ front, text = front ++ rest := by
  obtain ⟨front, whole⟩ := Json.Reader.run_suffix {} text
  exact ⟨front, by rw [rest_of_ofFront found]; exact whole.symm⟩

theorem Decode.Decoder.ofFront_less (found : d.ofFront text = .ok (a, rest)) (some : text ≠ []) :
    rest.length < text.length := by
  rw [rest_of_ofFront found]
  exact Json.Document.read_less some

end

end TezosNode
