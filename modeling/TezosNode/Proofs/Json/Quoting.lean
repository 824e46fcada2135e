import TezosNode.Json.Reader
import TezosNode.Json.Render
import TezosNode.Proofs.Text.Encoding

namespace TezosNode.Json

namespace Quote

/-- A quote in plain text with the bytes of the text so far, last one first. -/
def plain (taken : Bytes) : Quote := { bytes := .ok taken }

def feed (q : Quote) : Bytes → Option Quote
  | [] => some q
  | b :: bs =>
    match q.step b with
    | .more next => feed next bs
    | _ => none

theorem feed_append {q next : Quote} {front : Bytes} (fed : q.feed front = some next) (back : Bytes) :
    q.feed (front ++ back) = next.feed back := by
  induction front generalizing q with
  | nil =>
    cases fed
    rfl
  | cons b front ih =>
    rw [feed] at fed
    rw [List.cons_append, feed]
    cases step : q.step b with
    | more after =>
      rw [step] at fed
      exact ih fed
    | closed literal =>
      rw [step] at fed
      cases fed
    | failed literal =>
      rw [step] at fed
      cases fed

theorem step_plain {b : UInt8} (taken : Bytes) (quote : b ≠ Ascii.quote) (slash : b ≠ Ascii.backslash)
    (printable : 0x20 ≤ b) : (plain taken).step b = .more (plain (b :: taken)) := by
  have control : ¬b < 0x20 := UInt8.not_lt.mpr printable
  change (if b = Ascii.quote then _ else if b = Ascii.backslash then _ else if b < 0x20 then _ else _) = _
  rw [if_neg quote, if_neg slash, if_neg control]
  rfl

theorem feed_plain {bs : Bytes} (taken : Bytes)
    (plainly : ∀ b ∈ bs, b ≠ Ascii.quote ∧ b ≠ Ascii.backslash ∧ 0x20 ≤ b) :
    (plain taken).feed bs = some (plain (bs.reverse ++ taken)) := by
  induction bs generalizing taken with
  | nil => rfl
  | cons b bs ih =>
    obtain ⟨quote, slash, printable⟩ := plainly b (by simp)
    rw [feed, step_plain taken quote slash printable]
    change (plain (b :: taken)).feed bs = _
    rw [ih _ fun c member => plainly c (by simp [member]), List.reverse_cons, List.append_assoc]
    rfl

theorem feed_itself {c : Char} (taken : Bytes) (quote : c ≠ '"') (slash : c ≠ '\\')
    (printable : 0x20 ≤ c.toNat) :
    (plain taken).feed (String.utf8EncodeChar c) =
      some (plain ((String.utf8EncodeChar c).reverse ++ taken)) := by
  apply feed_plain taken
  intro b member
  by_cases ascii : c.toNat < 0x80
  · rw [utf8EncodeChar_ascii ascii, List.mem_singleton] at member
    have value : b.toNat = c.toNat := by
      rw [member, UInt8.toNat_ofNat_of_lt' (Nat.lt_trans ascii (by decide))]
    refine ⟨?_, ?_, UInt8.le_iff_toNat_le.mpr (by rwa [value])⟩
    · rintro rfl
      exact quote (Char.toNat_inj.mp value.symm)
    · rintro rfl
      exact slash (Char.toNat_inj.mp value.symm)
  · have beyond := UInt8.le_iff_toNat_le.mp (utf8EncodeChar_beyond (Nat.not_lt.mp ascii) b member)
    have least : 128 ≤ b.toNat := beyond
    refine ⟨?_, ?_, UInt8.le_iff_toNat_le.mpr (Nat.le_trans (by decide) least)⟩
    · rintro rfl
      exact absurd least (by decide)
    · rintro rfl
      exact absurd least (by decide)

theorem pushUnit_char {q : Quote} {c : Char} (settled : q.high = none) (low : c.toNat < 0xD800) :
    q.pushUnit c.toNat = q.pushChar c := by
  have trailing : ¬(0xDC00 ≤ c.toNat ∧ c.toNat ≤ 0xDFFF) := by omega
  have leading : ¬(0xD800 ≤ c.toNat ∧ c.toNat ≤ 0xDBFF) := by omega
  simp only [pushUnit, settled]
  rw [if_neg trailing, if_neg leading, Char.ofNat_toNat]

theorem feed_control {c : Char} (taken : Bytes) (control : c.toNat < 0x20) :
    (plain taken).feed (Bytes.ofChars ['\\', 'u', '0', '0', Text.hexChar (c.toNat / 16),
      Text.hexChar (c.toNat % 16)]) = some (plain ((String.utf8EncodeChar c).reverse ++ taken)) := by
  obtain ⟨high, writtenHigh, readHigh⟩ := Text.hexDigit?_hexChar (c.toNat / 16) (by omega)
  obtain ⟨low, writtenLow, readLow⟩ := Text.hexDigit?_hexChar (c.toNat % 16) (by omega)
  have bytes : Bytes.ofChars ['\\', 'u', '0', '0', Text.hexChar (c.toNat / 16),
      Text.hexChar (c.toNat % 16)] = [0x5C, 0x75, 0x30, 0x30, high, low] := by
    rw [Bytes.ofChars_cons, Bytes.ofChars_cons, Bytes.ofChars_cons, Bytes.ofChars_cons,
      Bytes.ofChars_cons, Bytes.ofChars_cons, writtenHigh, writtenLow]
    rfl
  have whole : c.toNat / 16 * 16 + c.toNat % 16 = c.toNat := Nat.div_add_mod' _ _
  have unit : hexUnit? [0x30, 0x30, high, low] = some c.toNat := by
    change ((Ascii.hexDigit? high).map (0 * 16 + ·)).bind (fun n => ((Ascii.hexDigit? low).map
      (n * 16 + ·)).bind some) = some c.toNat
    rw [readHigh, readLow]
    simp only [Option.map_some, Option.bind_some, Nat.zero_mul, Nat.zero_add, whole]
  have last : Quote.step { plain taken with phase := .hex [0x30, 0x30, high] } low =
      .more (plain ((String.utf8EncodeChar c).reverse ++ taken)) := by
    simp only [Quote.step, List.cons_append, List.nil_append, unit]
    simp only [pushUnit_char (q := { plain taken with phase := .hex [0x30, 0x30, high] }) rfl
      (show c.toNat < 0xD800 by omega)]
    rfl
  rw [bytes]
  change Quote.feed { plain taken with phase := .hex [0x30, 0x30, high] } [low] = _
  rw [feed, last]
  rfl

theorem feed_escapeChar (c : Char) (taken : Bytes) :
    (plain taken).feed (Bytes.ofChars (escapeChar c)) =
      some (plain ((String.utf8EncodeChar c).reverse ++ taken)) := by
  unfold escapeChar
  -- the seven characters that have an escape of two
  iterate 7
    split
    · rename_i same
      subst same
      rfl
  split
  · exact feed_control taken ‹_›
  · rw [Bytes.ofChars_cons]
    exact (feed_append (feed_itself taken ‹c ≠ '"'› ‹c ≠ '\\'› (Nat.not_lt.mp ‹_›)) _)

theorem feed_text (cs : List Char) (taken : Bytes) :
    (plain taken).feed (Bytes.ofChars (cs.flatMap escapeChar)) =
      some (plain ((Bytes.ofChars cs).reverse ++ taken)) := by
  induction cs generalizing taken with
  | nil => rfl
  | cons c cs ih =>
    rw [List.flatMap_cons, Bytes.ofChars_append, feed_append (feed_escapeChar c taken), ih,
      Bytes.ofChars_cons, List.reverse_append, List.append_assoc]

theorem close_text (s : String) : (plain (Bytes.ofChars s.toList).reverse).close = .ofString s := by
  have read : Bytes.text? (Bytes.ofChars s.toList).reverse.reverse = some s := by
    rw [List.reverse_reverse, Bytes.text?_ofChars, String.ofList_toList]
  simp only [close, plain, Except.bind, read]
  rfl

end Quote

end TezosNode.Json
