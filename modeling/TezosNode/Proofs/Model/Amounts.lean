import TezosNode.Decimal.Power
import TezosNode.Proofs.Decode.Transcription
import TezosNode.Proofs.Model.RoundTrip

/-!
Amounts as the node quotes them. A value is taken for an amount exactly if it is a string that writes an
integer of 128 bits, blanks around it or not, and the amount is that integer. An amount is written in its one
canonical form, whatever form it was read from.
-/

namespace TezosNode.Amount

open Decode Json Decoder

def Fits (n : Int) : Prop := -(Decimal.twoTo 127 : Int) ≤ n ∧ n ≤ Decimal.twoTo 127 - 1

instance (n : Int) : Decidable (Fits n) := inferInstanceAs (Decidable (_ ∧ _))

/-- The value is a string that writes the integer. -/
def Quotes (v : Value) (n : Int) : Prop := ∃ s, v = .string s ∧ Text.WritesAmid s.toList n

theorem limit_eq : limit = Decimal.twoTo 127 := rfl

theorem fits_value (a : Amount) : Fits a.value := by
  rw [Fits, ← limit_eq]
  exact ⟨a.low, Int.le_sub_one_of_lt a.high⟩

theorem exists_value_iff {n : Int} : (∃ a : Amount, a.value = n) ↔ Fits n := by
  constructor
  · rintro ⟨a, rfl⟩
    exact a.fits_value
  · intro fits
    rw [Fits, ← limit_eq] at fits
    exact ⟨⟨n, fits.1, Int.lt_of_le_sub_one fits.2⟩, rfl⟩

theorem exists_ok_iff {result : Except Fault Amount} (quoted : Int → Prop)
    (reads : ∀ a, result = .ok a ↔ quoted a.value) (n : Int) :
    (∃ a, result = .ok a ∧ a.value = n) ↔ quoted n ∧ Fits n := by
  constructor
  · rintro ⟨a, done, rfl⟩
    exact ⟨(reads a).mp done, a.fits_value⟩
  · rintro ⟨writes, fits⟩
    obtain ⟨a, rfl⟩ := exists_value_iff.mpr fits
    exact ⟨a, (reads a).mpr writes, rfl⟩

theorem accepts_iff {s : String} {a : Amount} :
    (read s).mapError Fault.integer = .ok a ↔ Text.WritesAmid s.toList a.value := by
  rw [← read_iff]
  constructor
  · exact mapError_ok
  · intro done
    rw [done]
    rfl

theorem decode_iff {source : Source} {v : Value} {a : Amount} :
    decoder.decode source (.ofValue v) = .ok a ↔ Quotes v a.value := by
  rw [decoder, fromText_decode_iff]
  simp only [accepts_iff]
  rfl

theorem ofText_iff {text : Bytes} {a : Amount} :
    decoder.ofText text = .ok a ↔ ∃ v, Transcribes text v ∧ Quotes v a.value := by
  rw [decoder, fromText_ofText_iff]
  simp only [accepts_iff]
  constructor
  · rintro ⟨s, transcribes, writes⟩
    exact ⟨.string s, transcribes, s, rfl, writes⟩
  · rintro ⟨_, transcribes, s, rfl, writes⟩
    exact ⟨s, transcribes, writes⟩

theorem canonical_text (a : Amount) : Text.Canonical a.text.toList a.value := Text.canonical_iff.mpr rfl

theorem survives (a : Amount) : decoder.Survives a.toValue a := a.keeps.survives rfl (Nat.zero_le _)

/-- What is read, from a value or a text, is the integer that is quoted, and nothing is read but integers of
128 bits. What is written is canonical and is read back, and an amount that was read in another form is
written in the canonical one. -/
theorem quoted_integers_exact :
    (∀ n, (∃ a : Amount, a.value = n) ↔ Fits n) ∧
    (∀ v n, (∃ a, decoder.ofValue v = .ok a ∧ a.value = n) ↔ Quotes v n ∧ Fits n) ∧
    (∀ text n, (∃ a, decoder.ofText text = .ok a ∧ a.value = n) ↔
      (∃ v, Transcribes text v ∧ Quotes v n) ∧ Fits n) ∧
    (∀ a : Amount, decoder.Survives a.toValue a ∧
      ∃ t, a.toValue = .string t ∧ Text.Canonical t.toList a.value) ∧
    ∀ s a n, decoder.ofValue (.string s) = .ok a → Text.WritesAmid s.toList n →
      ∃ t, a.toValue = .string t ∧ Text.Canonical t.toList n := by
  refine ⟨fun n => exists_value_iff, fun v n => ?_, fun text n => ?_, fun a => ?_, fun s a n decoded writes => ?_⟩
  · exact exists_ok_iff (Quotes v) (fun a => decode_iff) n
  · exact exists_ok_iff (fun n => ∃ v, Transcribes text v ∧ Quotes v n) (fun a => ofText_iff) n
  · exact ⟨a.survives, a.text, rfl, a.canonical_text⟩
  · obtain ⟨_, same, written⟩ := decode_iff.mp decoded
    cases same
    have value : n = a.value := writes.unique written
    rw [value]
    exact ⟨a.text, rfl, a.canonical_text⟩

/-- The least amount, with zeros to spare, between a tab and a wide blank. -/
theorem quoted_integers_exact_least :
    (∃ a, decoder.ofValue (.string "\t-000170141183460469231731687303715884105728\u2003") = .ok a ∧
      a.value = -Decimal.twoTo 127 ∧ ∃ t, a.toValue = .string t ∧ Text.Canonical t.toList (-Decimal.twoTo 127)) ∧
    Text.Canonical "-170141183460469231731687303715884105728".toList (-Decimal.twoTo 127) := by
  obtain ⟨_, values, _, _, rewrites⟩ := quoted_integers_exact
  have digits : Text.Numeral "000170141183460469231731687303715884105728".toList := by decide
  have writes : Text.WritesAmid "\t-000170141183460469231731687303715884105728\u2003".toList
      (-Decimal.twoTo 127) :=
    ⟨['\t'], "-000170141183460469231731687303715884105728".toList, ['\u2003'], by decide,
      List.forall_mem_singleton.mpr rfl, List.forall_mem_singleton.mpr rfl, .minus digits⟩
  have fits : Fits (-Decimal.twoTo 127) := by decide
  obtain ⟨a, decoded, value⟩ := (values (.string _) _).mpr ⟨⟨_, rfl, writes⟩, fits⟩
  have plain : Text.Numeral "170141183460469231731687303715884105728".toList := by decide
  exact ⟨⟨a, decoded, value, rewrites _ a _ decoded writes⟩, .negative plain (by decide)⟩

end TezosNode.Amount
