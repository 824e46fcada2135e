import TezosNode.Proofs.Text.Encoding
import TezosNode.Url.Percent

namespace TezosNode.Url

open Bytes

theorem percentDecode_plain {b : UInt8} (plain : b ≠ 0x25) (rest : Bytes) :
    percentDecode (b :: rest) = b :: percentDecode rest := by
  rw [percentDecode]
  rintro high low others rfl
  exact absurd rfl plain

theorem percentDecode_append {front : Bytes} (plain : ∀ b ∈ front, b ≠ 0x25) (rest : Bytes) :
    percentDecode (front ++ rest) = front ++ percentDecode rest := by
  induction front with
  | nil => rfl
  | cons b front ih =>
    rw [List.cons_append, percentDecode_plain (plain b (by simp)),
      ih fun other member => plain other (by simp [member])]
    rfl

theorem percentDecode_triple {high low : UInt8} {h l : Nat} (first : Ascii.hexDigit? high = some h)
    (second : Ascii.hexDigit? low = some l) (rest : Bytes) :
    percentDecode (0x25 :: high :: low :: rest) = .ofNat (h * 16 + l) :: percentDecode rest := by
  rw [percentDecode, first, second]

theorem length_percentDecode_le (bytes : Bytes) : (percentDecode bytes).length ≤ bytes.length := by
  fun_induction percentDecode bytes with
  | case1 high low rest h l first second ih => simp only [List.length_cons]; omega
  | case2 high low rest missing ih => simpa only [List.length_cons, Nat.add_le_add_iff_right] using ih
  | case3 b rest plain ih => simpa only [List.length_cons, Nat.add_le_add_iff_right] using ih
  | case4 => exact Nat.le_refl _

theorem upperHexChar_digit : ∀ n < 16, ∃ b, String.utf8EncodeChar (upperHexChar n) = [b] ∧
    Ascii.hexDigit? b = some n := by
  have all : ∀ n < 16, String.utf8EncodeChar (upperHexChar n) = [UInt8.ofNat (upperHexChar n).toNat] ∧
      Ascii.hexDigit? (UInt8.ofNat (upperHexChar n).toNat) = some n := by decide
  intro n small
  exact ⟨_, all n small⟩

theorem percentDecode_percentByte (b : UInt8) (rest : Bytes) :
    percentDecode (ofChars (percentByte b) ++ rest) = b :: percentDecode rest := by
  have bound := b.toNat_lt
  obtain ⟨high, writtenHigh, readHigh⟩ := upperHexChar_digit (b.toNat / 16) (by omega)
  obtain ⟨low, writtenLow, readLow⟩ := upperHexChar_digit (b.toNat % 16) (by omega)
  have written : ofChars (percentByte b) = [0x25, high, low] := by
    rw [percentByte, ofChars_cons, ofChars_cons, ofChars_cons, writtenHigh, writtenLow]
    rfl
  have whole : b.toNat / 16 * 16 + b.toNat % 16 = b.toNat := Nat.div_add_mod' _ _
  rw [written]
  change percentDecode (0x25 :: high :: low :: rest) = _
  rw [percentDecode_triple readHigh readLow, whole, UInt8.ofNat_toNat]

theorem percent_not_mem {c : Char} (plain : c ≠ '%') : ∀ b ∈ String.utf8EncodeChar c, b ≠ 0x25 := by
  intro b member same
  subst same
  by_cases ascii : c.toNat < 0x80
  · rw [utf8EncodeChar_ascii ascii, List.mem_singleton] at member
    have number : c.toNat = '%'.toNat := by
      have equal := congrArg UInt8.toNat member
      rw [UInt8.toNat_ofNat_of_lt' (Nat.lt_trans ascii (by decide))] at equal
      exact equal.symm
    exact plain (Char.toNat_inj.mp number)
  · have beyond := utf8EncodeChar_beyond (Nat.le_of_not_lt ascii) _ member
    revert beyond
    decide

theorem percentDecode_char {c : Char} (plain : c ≠ '%') (rest : Bytes) :
    percentDecode (String.utf8EncodeChar c ++ rest) = String.utf8EncodeChar c ++ percentDecode rest :=
  percentDecode_append (percent_not_mem plain) rest

theorem percentDecode_bytes (bytes rest : Bytes) :
    percentDecode (ofChars (bytes.flatMap percentByte) ++ rest) = bytes ++ percentDecode rest := by
  induction bytes with
  | nil => rfl
  | cons b bytes ih =>
    rw [List.flatMap_cons, ofChars_append, List.append_assoc, percentDecode_percentByte, ih]
    rfl

theorem percentDecode_percentChar (c : Char) (rest : Bytes) :
    percentDecode (ofChars (percentChar c) ++ rest) = String.utf8EncodeChar c ++ percentDecode rest :=
  percentDecode_bytes _ rest

def isHexDigit (c : Char) : Bool := isAscii c && (Ascii.hexDigit? (.ofNat c.toNat)).isSome

def leadsDigits : List Char → Bool
  | high :: low :: _ => isHexDigit high && isHexDigit low
  | _ => false

theorem hexDigit?_of_isHexDigit {c : Char} (digit : isHexDigit c = true) :
    ∃ b n, String.utf8EncodeChar c = [b] ∧ Ascii.hexDigit? b = some n := by
  simp only [isHexDigit, isAscii, Bool.and_eq_true, decide_eq_true_eq] at digit
  obtain ⟨n, found⟩ := Option.isSome_iff_exists.mp digit.2
  exact ⟨_, n, utf8EncodeChar_ascii digit.1, found⟩

theorem hexDigit?_beyond {b : UInt8} (beyond : 0x80 ≤ b) : Ascii.hexDigit? b = none := by
  have large : 128 ≤ b.toNat := UInt8.le_iff_toNat_le.mp beyond
  have past (limit : UInt8) (small : limit.toNat < 128) : ¬b ≤ limit := by
    rw [UInt8.le_iff_toNat_le]
    omega
  simp [Ascii.hexDigit?, past 0x39 (by decide), past 0x66 (by decide), past 0x46 (by decide)]

theorem hexDigit?_of_not_isHexDigit {c : Char} (other : isHexDigit c = false) :
    ∃ b rest, String.utf8EncodeChar c = b :: rest ∧ Ascii.hexDigit? b = none := by
  by_cases ascii : c.toNat < 0x80
  · refine ⟨_, [], utf8EncodeChar_ascii ascii, ?_⟩
    simpa [isHexDigit, isAscii, ascii] using other
  · have beyond := utf8EncodeChar_beyond (Nat.le_of_not_lt ascii)
    cases bytes : String.utf8EncodeChar c with
    | nil => exact absurd bytes (by simp)
    | cons b rest =>
      refine ⟨b, rest, rfl, hexDigit?_beyond (beyond b ?_)⟩
      rw [bytes]
      exact List.mem_cons_self

theorem percentDecode_digits {high low : Char} (first : isHexDigit high = true)
    (second : isHexDigit low = true) : ∃ b, ∀ cs,
      percentDecode (0x25 :: ofChars (high :: low :: cs)) = b :: percentDecode (ofChars cs) := by
  obtain ⟨h, n, writtenHigh, readHigh⟩ := hexDigit?_of_isHexDigit first
  obtain ⟨l, m, writtenLow, readLow⟩ := hexDigit?_of_isHexDigit second
  refine ⟨.ofNat (n * 16 + m), fun cs => ?_⟩
  rw [ofChars_cons, ofChars_cons, writtenHigh, writtenLow]
  exact percentDecode_triple readHigh readLow _

theorem percentDecode_kept {bytes : Bytes} (kept : ∀ high low rest, bytes = high :: low :: rest →
      Ascii.hexDigit? high = none ∨ Ascii.hexDigit? low = none) :
    percentDecode (0x25 :: bytes) = 0x25 :: percentDecode bytes := by
  rcases bytes with _ | ⟨high, _ | ⟨low, rest⟩⟩
  · rfl
  · rfl
  · rw [percentDecode]
    rcases kept high low rest rfl with missing | missing
    · rw [missing]
    · rw [missing]
      cases Ascii.hexDigit? high <;> rfl

theorem percentDecode_no_digits {cs : List Char} (others : leadsDigits cs = false) :
    percentDecode (0x25 :: ofChars cs) = 0x25 :: percentDecode (ofChars cs) := by
  apply percentDecode_kept
  intro high low rest bytes
  cases cs with
  | nil => cases bytes
  | cons first cs =>
    rw [ofChars_cons] at bytes
    cases digit : isHexDigit first with
    | false =>
      obtain ⟨b, more, written, missing⟩ := hexDigit?_of_not_isHexDigit digit
      rw [written] at bytes
      obtain ⟨rfl, _⟩ := List.cons.inj bytes
      exact .inl missing
    | true =>
      obtain ⟨b, n, written, found⟩ := hexDigit?_of_isHexDigit digit
      rw [written] at bytes
      cases cs with
      | nil => cases bytes
      | cons second cs =>
        have other : isHexDigit second = false := by simpa [leadsDigits, digit] using others
        obtain ⟨b', more, written, missing⟩ := hexDigit?_of_not_isHexDigit other
        rw [ofChars_cons, written] at bytes
        cases bytes
        exact .inr missing

section

variable {isEncoded : Char → Bool}

theorem percentEncode_cons (c : Char) (cs : List Char) :
    percentEncode isEncoded (c :: cs) =
      (if isAscii c && !isEncoded c then [c] else percentChar c) ++ percentEncode isEncoded cs :=
  List.flatMap_cons

/-- An encoding that leaves percent signs and digits as they are. -/
def Spares (isEncoded : Char → Bool) : Prop :=
  isEncoded '%' = false ∧ ∀ c, isHexDigit c = true → isEncoded c = false

theorem percentEncode_hexDigit (spares : Spares isEncoded) {c : Char} (digit : isHexDigit c = true)
    (cs : List Char) : percentEncode isEncoded (c :: cs) = c :: percentEncode isEncoded cs := by
  have ascii : isAscii c = true := (Bool.and_eq_true_iff.mp digit).1
  rw [percentEncode_cons, ascii, spares.2 c digit]
  rfl

theorem percentEncode_other (isEncoded : Char → Bool) {c : Char} (other : isHexDigit c = false) (cs : List Char) :
    ∃ first rest, percentEncode isEncoded (c :: cs) = first :: rest ∧ isHexDigit first = false := by
  rw [percentEncode_cons]
  split
  · exact ⟨c, _, rfl, other⟩
  · cases bytes : String.utf8EncodeChar c with
    | nil => exact absurd bytes (by simp)
    | cons b rest =>
      rw [percentChar, bytes]
      exact ⟨'%', _, rfl, by decide⟩

theorem leadsDigits_of_other {c : Char} (other : isHexDigit c = false) (cs : List Char) :
    leadsDigits (c :: cs) = false := by
  cases cs with
  | nil => rfl
  | cons d cs => simp [leadsDigits, other]

theorem leadsDigits_percentEncode (spares : Spares isEncoded) (cs : List Char) :
    leadsDigits (percentEncode isEncoded cs) = leadsDigits cs := by
  cases cs with
  | nil => rfl
  | cons c cs =>
    cases digit : isHexDigit c with
    | false =>
      obtain ⟨first, rest, encoded, other⟩ := percentEncode_other isEncoded digit cs
      rw [encoded, leadsDigits_of_other other, leadsDigits_of_other digit]
    | true =>
      rw [percentEncode_hexDigit spares digit]
      cases cs with
      | nil => rfl
      | cons d cs =>
        cases second : isHexDigit d with
        | false =>
          obtain ⟨first, rest, encoded, other⟩ := percentEncode_other isEncoded second cs
          rw [encoded]
          simp [leadsDigits, other, second]
        | true => rw [percentEncode_hexDigit spares second, leadsDigits, leadsDigits]

/-- Reading what was encoded is reading what there was. -/
theorem percentDecode_percentEncode (spares : Spares isEncoded) (cs : List Char) :
    percentDecode (ofChars (percentEncode isEncoded cs)) = percentDecode (ofChars cs) := by
  match cs with
  | [] => rfl
  | c :: cs =>
    have rest := percentDecode_percentEncode spares cs
    rw [percentEncode_cons, ofChars_append, ofChars_cons]
    by_cases percent : c = '%'
    · subst percent
      rw [spares.1]
      change percentDecode (0x25 :: ofChars (percentEncode isEncoded cs)) =
        percentDecode (0x25 :: ofChars cs)
      cases digits : leadsDigits cs with
      | false =>
        have encoded : leadsDigits (percentEncode isEncoded cs) = false := by
          rw [leadsDigits_percentEncode spares, digits]
        rw [percentDecode_no_digits encoded, percentDecode_no_digits digits, rest]
      | true =>
        match cs, digits with
        | high :: low :: cs, digits =>
          obtain ⟨first, second⟩ := Bool.and_eq_true_iff.mp digits
          obtain ⟨b, triple⟩ := percentDecode_digits first second
          rw [percentEncode_hexDigit spares first, percentEncode_hexDigit spares second, triple, triple,
            percentDecode_percentEncode spares cs]
    · rw [percentDecode_char percent]
      split
      · rw [ofChars_cons, ofChars, List.flatMap_nil, List.append_nil, percentDecode_char percent, rest]
      · rw [percentDecode_percentChar, rest]
termination_by cs.length

end

theorem inPath_spares : Spares inPath := by
  have ascii : ∀ c : Char, c.toNat < 128 → isHexDigit c = true → inPath c = false :=
    of_code_below (by decide)
  refine ⟨by decide, fun c digit => ?_⟩
  have small : c.toNat < 128 := by
    simpa [isAscii] using (Bool.and_eq_true_iff.mp digit).1
  exact ascii c small digit

end TezosNode.Url
