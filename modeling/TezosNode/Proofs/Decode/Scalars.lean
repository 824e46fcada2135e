import TezosNode.Model.Amount
import TezosNode.Proofs.Decode.Keeping
import TezosNode.Proofs.Text.Encoding
import TezosNode.Proofs.Text.Integers
import TezosNode.Proofs.Time.Text

namespace TezosNode

open Decode Json

namespace Decode.Decoder

theorem keeps_int32 (n : Int32) : int32.Keeps (.integer n.toInt) n := by
  have low : -2147483648 ≤ n.toInt := n.le_toInt
  have high : n.toInt < 2147483648 := n.toInt_lt
  have fits : -2147483648 ≤ n.toInt ∧ n.toInt ≤ 2147483647 := by omega
  exact (keeps_integer fits).map (Int32.ofInt_toInt n)

theorem keeps_int64 (n : Int64) : int64.Keeps (.integer n.toInt) n := by
  have low : -9223372036854775808 ≤ n.toInt := n.le_toInt
  have high : n.toInt < 9223372036854775808 := n.toInt_lt
  have fits : -9223372036854775808 ≤ n.toInt ∧ n.toInt ≤ 9223372036854775807 := by omega
  exact (keeps_integer fits).map (Int64.ofInt_toInt n)

theorem keeps_uint8 (n : UInt8) : uint8.Keeps (.integer n.toNat) n := by
  have high : n.toNat < 256 := n.toNat_lt
  have fits : (0 : Int) ≤ n.toNat ∧ (n.toNat : Int) ≤ 255 := by omega
  exact (keeps_integer fits).map UInt8.ofNat_toNat

theorem keeps_uint16 (n : UInt16) : uint16.Keeps (.integer n.toNat) n := by
  have high : n.toNat < 65536 := n.toNat_lt
  have fits : (0 : Int) ≤ n.toNat ∧ (n.toNat : Int) ≤ 65535 := by omega
  exact (keeps_integer fits).map UInt16.ofNat_toNat

theorem keeps_uint32 (n : UInt32) : uint32.Keeps (.integer n.toNat) n := by
  have high : n.toNat < 4294967296 := n.toNat_lt
  have fits : (0 : Int) ≤ n.toNat ∧ (n.toNat : Int) ≤ 4294967295 := by omega
  exact (keeps_integer fits).map UInt32.ofNat_toNat

theorem keeps_quotedInt64 (n : Int64) : quotedInt64.Keeps (.string (toString n.toInt)) n := by
  have low : -((9223372036854775808 : Nat) : Int) ≤ n.toInt := n.le_toInt
  have high : n.toInt < 9223372036854775808 := n.toInt_lt
  have most : n.toInt ≤ ((9223372036854775807 : Nat) : Int) := by omega
  refine keeps_fromText ?_
  change ((Text.readInteger _ _ (toString n.toInt).toList).mapError Fault.integer).map Int64.ofInt = _
  rw [Text.readInteger_toString low most]
  exact congrArg Except.ok (Int64.ofInt_toInt n)

theorem keeps_hex (bytes : Bytes) : hex.Keeps (.string (Text.hexOf bytes)) bytes := by
  refine keeps_fromText ?_
  rw [Text.readHex_hexOf]
  rfl

theorem keeps_instant {t : Time.Instant} (proper : t.Proper) : instant.Keeps (.string t.text) t := by
  refine (keeps_textFor .instant t.text).refine ?_
  rw [Time.Instant.read_text proper]
  rfl

theorem keeps_instant_default : instant.Keeps (.string ({} : Time.Instant).text) {} :=
  keeps_instant Time.Instant.proper_default

theorem faithful_instant : instant.Faithful fun t => .string t.text := by
  intro t reaches
  obtain ⟨s, _, accepted⟩ := reaches.refine
  cases read : Time.Instant.read s with
  | error fault =>
    rw [read] at accepted
    cases accepted
  | ok instant =>
    rw [read] at accepted
    cases accepted
    exact keeps_instant (Time.Instant.read_proper read)

end Decode.Decoder

namespace Amount

theorem ofInt?_eq_some {n : Int} {a : Amount} (made : ofInt? n = some a) : a.value = n := by
  unfold ofInt? at made
  split at made
  · exact congrArg value (Option.some.inj made).symm
  · cases made

theorem ofInt?_value (a : Amount) : ofInt? a.value = some a := dif_pos ⟨a.low, a.high⟩

/-- An amount is read from the texts that write it, with blanks around them or not. -/
theorem read_iff {s : String} {a : Amount} : read s = .ok a ↔ Text.WritesAmid s.toList a.value := by
  have low : -((limit : Nat) : Int) ≤ a.value := a.low
  have high : a.value ≤ ((limit - 1 : Nat) : Int) := Int.le_sub_one_of_lt a.high
  rw [← Text.writes_trim_iff]
  constructor
  · intro done
    obtain ⟨n, found, done⟩ := bind_ok done
    have writes := (Text.readInteger_ok_iff.mp found).1
    split at done
    · next made =>
      cases done
      rwa [ofInt?_eq_some made]
    · cases done
  · intro writes
    have found := Text.readInteger_ok_iff.mpr ⟨writes, low, high⟩
    rw [read, found]
    simp only [bind, Except.bind, ofInt?_value]
    rfl

theorem keeps (a : Amount) : decoder.Keeps a.toValue a := by
  have writes : Text.Writes a.text.toList a.value := (Text.canonical_iff.mpr rfl).writes
  refine Decoder.keeps_fromText ?_
  rw [read_iff.mpr writes.amid]
  rfl

theorem present (a : Amount) : a.toValue ≠ .null := nofun

end Amount

end TezosNode
