import TezosNode.Text.Hex

namespace TezosNode

namespace Bytes

def ofChars (cs : List Char) : Bytes := cs.flatMap String.utf8EncodeChar

theorem ofString_ofList (cs : List Char) : ofString (String.ofList cs) = ofChars cs := by
  rw [ofString, String.toByteArray_ofList, List.utf8Encode, List.data_toByteArray]
  rfl

theorem ofString_eq_ofChars (s : String) : ofString s = ofChars s.toList := by
  rw [← ofString_ofList, String.ofList_toList]

theorem ofChars_cons (c : Char) (cs : List Char) :
    ofChars (c :: cs) = String.utf8EncodeChar c ++ ofChars cs := List.flatMap_cons

theorem ofChars_append (cs others : List Char) :
    ofChars (cs ++ others) = ofChars cs ++ ofChars others := List.flatMap_append

theorem text?_ofChars (cs : List Char) : text? (ofChars cs) = some (String.ofList cs) := by
  rw [← ofString_ofList, text?_ofString]

theorem ofChars_inj {cs others : List Char} (same : ofChars cs = ofChars others) : cs = others := by
  have texts : some (String.ofList cs) = some (String.ofList others) := by
    rw [← text?_ofChars, same, text?_ofChars]
  exact String.ofList_inj.mp (Option.some.inj texts)

end Bytes

/-- What is checked of all code points below a bound is known of the characters there. -/
theorem of_code_below {p : Char → Prop} {bound : Nat} (all : ∀ n < bound, p (Char.ofNat n)) :
    ∀ c : Char, c.toNat < bound → p c := by
  intro c small
  have known := all c.toNat small
  rwa [Char.ofNat_toNat] at known

theorem utf8EncodeChar_ascii {c : Char} (ascii : c.toNat < 0x80) :
    String.utf8EncodeChar c = [UInt8.ofNat c.toNat] :=
  if_pos (Nat.le_of_lt_succ ascii)

theorem utf8EncodeChar_beyond {c : Char} (beyond : 0x80 ≤ c.toNat) :
    ∀ b ∈ String.utf8EncodeChar c, 0x80 ≤ b := by
  have large : ¬c.val.toNat ≤ 0x7f := Nat.not_le_of_lt beyond
  intro b member
  rw [UInt8.le_iff_toNat_le]
  simp only [String.utf8EncodeChar, if_neg large] at member
  split at member
  · simp only [List.mem_cons, List.not_mem_nil, or_false] at member
    rcases member with rfl | rfl <;> simp <;> omega
  · split at member
    · simp only [List.mem_cons, List.not_mem_nil, or_false] at member
      rcases member with rfl | rfl | rfl <;> simp <;> omega
    · simp only [List.mem_cons, List.not_mem_nil, or_false] at member
      rcases member with rfl | rfl | rfl | rfl <;> simp <;> omega

namespace Text

theorem hexDigit?_hexChar : ∀ n < 16, ∃ b, String.utf8EncodeChar (hexChar n) = [b] ∧
    Ascii.hexDigit? b = some n := by
  have all : ∀ n < 16, String.utf8EncodeChar (hexChar n) = [UInt8.ofNat (hexChar n).toNat] ∧
      Ascii.hexDigit? (UInt8.ofNat (hexChar n).toNat) = some n := by decide
  intro n small
  exact ⟨_, all n small⟩

theorem hexDigits_byte (b : UInt8) : ∃ high low : UInt8,
    String.utf8EncodeChar (hexChar (b.toNat / 16)) = [high] ∧
    String.utf8EncodeChar (hexChar (b.toNat % 16)) = [low] ∧
    Ascii.hexDigit? high = some (b.toNat / 16) ∧ Ascii.hexDigit? low = some (b.toNat % 16) := by
  have bound := b.toNat_lt
  obtain ⟨high, writtenHigh, readHigh⟩ := hexDigit?_hexChar (b.toNat / 16) (by omega)
  obtain ⟨low, writtenLow, readLow⟩ := hexDigit?_hexChar (b.toNat % 16) (by omega)
  exact ⟨high, low, writtenHigh, writtenLow, readHigh, readLow⟩

theorem ofString_hexOf_cons (b : UInt8) (bytes : Bytes) : ∃ high low : UInt8,
    Bytes.ofString (hexOf (b :: bytes)) = high :: low :: Bytes.ofString (hexOf bytes) ∧
    Ascii.hexDigit? high = some (b.toNat / 16) ∧ Ascii.hexDigit? low = some (b.toNat % 16) := by
  obtain ⟨high, low, writtenHigh, writtenLow, readHigh, readLow⟩ := hexDigits_byte b
  refine ⟨high, low, ?_, readHigh, readLow⟩
  rw [hexOf, hexOf, Bytes.ofString_ofList, Bytes.ofString_ofList, List.flatMap_cons,
    Bytes.ofChars_append, Bytes.ofChars_cons, Bytes.ofChars_cons, writtenHigh, writtenLow]
  rfl

theorem length_hexOf (bytes : Bytes) : (Bytes.ofString (hexOf bytes)).length = 2 * bytes.length := by
  induction bytes with
  | nil => rfl
  | cons b bytes ih =>
    obtain ⟨high, low, written, _, _⟩ := ofString_hexOf_cons b bytes
    rw [written, List.length_cons, List.length_cons, ih, List.length_cons]
    omega

theorem readHexFrom_hexOf (index : Nat) (bytes : Bytes) :
    readHexFrom index (Bytes.ofString (hexOf bytes)) = .ok bytes := by
  induction bytes generalizing index with
  | nil => rfl
  | cons b bytes ih =>
    obtain ⟨high, low, written, readHigh, readLow⟩ := ofString_hexOf_cons b bytes
    have whole : b.toNat / 16 * 16 + b.toNat % 16 = b.toNat := Nat.div_add_mod' _ _
    rw [written, readHexFrom, readHigh, readLow]
    change (readHexFrom (index + 2) _).map _ = _
    rw [ih, whole, UInt8.ofNat_toNat]
    rfl

theorem readHex_hexOf (bytes : Bytes) : readHex (hexOf bytes) = .ok bytes := by
  have even : ¬(Bytes.ofString (hexOf bytes)).length % 2 = 1 := by
    rw [length_hexOf]
    omega
  change (if _ then _ else _) = _
  rw [if_neg even]
  exact readHexFrom_hexOf 0 bytes

end Text

end TezosNode
