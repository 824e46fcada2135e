import TezosNode.Proofs.Json.Quoting
import TezosNode.Proofs.Text.Digits

/-!
Compact texts read back. The reader takes the text of a value off the front and hands the value to the
container around it, as long as every number in it is an integer of 64 bits.
-/

namespace TezosNode.Json

def Number.isExact : Number → Bool
  | .integer n => -9223372036854775808 ≤ n && n < 18446744073709551616
  | .double _ => false

namespace Value

mutual

def isExact : Value → Bool
  | .null | .bool _ | .string _ => true
  | .number n => n.isExact
  | .array items => areExact items
  | .object members => membersExact members

def areExact : List Value → Bool
  | [] => true
  | item :: items => item.isExact && areExact items

def membersExact : List (String × Value) → Bool
  | [] => true
  | (_, value) :: members => value.isExact && membersExact members

end

theorem itemChars_cons {items : List Value} (item : Value) (more : items ≠ []) :
    itemChars (item :: items) = chars item ++ ',' :: itemChars items := by
  cases items with
  | nil => exact absurd rfl more
  | cons second items => rfl

theorem memberChars_cons {members : List (String × Value)} (key : String) (value : Value)
    (more : members ≠ []) : memberChars ((key, value) :: members) =
      renderString key ++ ':' :: chars value ++ ',' :: memberChars members := by
  cases members with
  | nil => exact absurd rfl more
  | cons second members => rfl

end Value

namespace Reader

/-- Goes on after a step that ended a value or not. -/
def proceed (rest : Bytes) : Step → Document × Bytes
  | .more reader => reader.run rest
  | .value document _ => (document, rest)
  | .broken document => (document, [])

theorem run_cons {reader : Reader} {b : UInt8} {step : Step} (steps : reader.step b = step)
    (within : ∀ document, step ≠ .value document false) (bs : Bytes) :
    reader.run (b :: bs) = proceed bs step := by
  rw [run, steps]
  cases step with
  | more reader => rfl
  | broken document => rfl
  | value document inside =>
    cases inside with
    | true => rfl
    | false => exact absurd rfl (within document)

theorem run_more {reader next : Reader} {b : UInt8} (steps : reader.step b = .more next) (bs : Bytes) :
    reader.run (b :: bs) = next.run bs := run_cons steps nofun bs

theorem give_ne_outside (document other : Document) (stack : List Frame) :
    give document true stack ≠ .value other false := by
  cases stack with
  | nil => nofun
  | cons frame stack => cases frame <;> nofun

theorem run_gives {reader : Reader} {b : UInt8} {document : Document} {stack : List Frame}
    (gives : reader.step b = give document true stack) (bs : Bytes) :
    reader.run (b :: bs) = proceed bs (give document true stack) :=
  run_cons gives (fun _ => give_ne_outside _ _ _) bs

section

variable {q next : Quote} {bs : Bytes} {stack : List Frame}

theorem run_quote (mode : Quote → Mode)
    (goes : ∀ q b next, q.step b = .more next → Reader.step ⟨stack, mode q⟩ b = .more ⟨stack, mode next⟩)
    (fed : q.feed bs = some next) (rest : Bytes) :
    run ⟨stack, mode q⟩ (bs ++ rest) = run ⟨stack, mode next⟩ rest := by
  induction bs generalizing q with
  | nil =>
    cases fed
    rfl
  | cons b bs ih =>
    rw [Quote.feed] at fed
    cases step : q.step b with
    | more after =>
      rw [step] at fed
      rw [List.cons_append, run_more (goes q b after step)]
      exact ih fed
    | closed literal =>
      rw [step] at fed
      cases fed
    | failed literal =>
      rw [step] at fed
      cases fed

theorem run_string (fed : q.feed bs = some next) (rest : Bytes) :
    run ⟨stack, .string q⟩ (bs ++ rest) = run ⟨stack, .string next⟩ rest :=
  run_quote .string (fun q b next step => by simp only [Reader.step, step]) fed rest

theorem run_key (fed : q.feed bs = some next) (rest : Bytes) :
    run ⟨stack, .key q⟩ (bs ++ rest) = run ⟨stack, .key next⟩ rest :=
  run_quote .key (fun q b next step => by simp only [Reader.step, step]) fed rest

end

theorem ofChars_renderString (s : String) : Bytes.ofChars (renderString s) =
    Ascii.quote :: (Bytes.ofChars (s.toList.flatMap escapeChar) ++ [Ascii.quote]) := by
  rw [renderString, Bytes.ofChars_append, Bytes.ofChars_cons]
  rfl

theorem run_renderString (s : String) (stack : List Frame) (rest : Bytes) :
    run ⟨stack, .value⟩ (Bytes.ofChars (renderString s) ++ rest) =
      proceed rest (give (.string (.ofString s)) true stack) := by
  have opened : Reader.step ⟨stack, .value⟩ Ascii.quote = .more ⟨stack, .string (.plain [])⟩ := rfl
  have closed : Reader.step ⟨stack, .string (.plain (Bytes.ofChars s.toList).reverse)⟩ Ascii.quote =
      give (.string (.ofString s)) true stack := by
    rw [← Quote.close_text]
    rfl
  have fed := Quote.feed_text s.toList []
  rw [List.append_nil] at fed
  rw [ofChars_renderString, List.cons_append, List.append_assoc, run_more opened, run_string fed]
  exact run_gives closed rest

theorem run_renderKey (key : String) (members : List (Literal × Document)) (stack : List Frame)
    (rest : Bytes) :
    run ⟨.object members :: stack, .key (.plain [])⟩
        (Bytes.ofChars (key.toList.flatMap escapeChar) ++ Ascii.quote :: rest) =
      run ⟨.member members (.ofString key) :: stack, .colon⟩ rest := by
  have closed : Reader.step
      ⟨.object members :: stack, .key (.plain (Bytes.ofChars key.toList).reverse)⟩ Ascii.quote =
      .more ⟨.member members (.ofString key) :: stack, .colon⟩ := by
    rw [← Quote.close_text]
    rfl
  have fed := Quote.feed_text key.toList []
  rw [List.append_nil] at fed
  rw [run_key fed, run_more closed]

/-- No byte that a numeral could go on with. -/
def Apart (rest : Bytes) : Prop :=
  ∀ b bs, rest = b :: bs → b = Ascii.comma ∨ b = Ascii.closeBracket ∨ b = Ascii.closeBrace

def digitByte (d : Nat) : UInt8 := UInt8.ofNat (0x30 + d)

theorem utf8EncodeChar_digitChar : ∀ d < 10, String.utf8EncodeChar (Nat.digitChar d) = [digitByte d] := by
  decide

theorem isDigit_digitByte : ∀ d < 10, Ascii.isDigit (digitByte d) = true := by decide

theorem digit_digitByte : ∀ d < 10, Ascii.digit (digitByte d) = d := by decide

theorem ofChars_digitChars {ds : List Nat} (small : ∀ d ∈ ds, d < 10) :
    Bytes.ofChars (Text.digitChars ds) = ds.map digitByte := by
  induction ds with
  | nil => rfl
  | cons d ds ih =>
    change Bytes.ofChars (Nat.digitChar d :: Text.digitChars ds) = _
    rw [Bytes.ofChars_cons, utf8EncodeChar_digitChar d (small d (by simp)),
      ih fun e member => small e (by simp [member])]
    rfl

theorem run_digits {ds : List Nat} (small : ∀ d ∈ ds, d < 10) (stack : List Frame) (n : Numeral)
    (rest : Bytes) :
    run ⟨stack, .numeral .whole n⟩ (ds.map digitByte ++ rest) =
      run ⟨stack, .numeral .whole { n with whole := n.whole ++ ds }⟩ rest := by
  induction ds generalizing n with
  | nil => rw [List.append_nil, List.map_nil, List.nil_append]
  | cons d ds ih =>
    have digit := small d (by simp)
    have steps : Reader.step ⟨stack, .numeral .whole n⟩ (digitByte d) =
        .more ⟨stack, .numeral .whole { n with whole := n.whole ++ [d] }⟩ := by
      change stepNumeral stack .whole n (digitByte d) = _
      rw [stepNumeral, extend?, if_pos (isDigit_digitByte d digit), digit_digitByte d digit]
    rw [List.map_cons, List.cons_append, run_more steps, ih fun e member => small e (by simp [member])]
    change run ⟨stack, .numeral .whole { n with whole := n.whole ++ [d] ++ ds }⟩ rest = _
    rw [List.append_assoc]
    rfl

theorem extend?_of_apart {phase : NumeralPhase} (whole : phase = .zero ∨ phase = .whole) (n : Numeral)
    {b : UInt8} (apart : b = Ascii.comma ∨ b = Ascii.closeBracket ∨ b = Ascii.closeBrace) :
    extend? phase n b = none := by
  rcases whole with rfl | rfl <;> rcases apart with rfl | rfl | rfl <;> rfl

theorem run_numeral {phase : NumeralPhase} (whole : phase = .zero ∨ phase = .whole) (n : Numeral)
    (stack : List Frame) {rest : Bytes} (apart : Apart rest) :
    run ⟨stack, .numeral phase n⟩ rest = proceed rest (give (number n) true stack) := by
  have ends : phase.canEnd = true := by rcases whole with rfl | rfl <;> rfl
  cases rest with
  | nil =>
    change (Reader.finish ⟨stack, .numeral phase n⟩, []) = _
    simp only [Reader.finish, ends]
    cases stack with
    | nil => rfl
    | cons frame stack => cases frame <;> rfl
  | cons b bs =>
    have mark := apart b bs rfl
    have other : Ascii.isDigit b = false := by rcases mark with rfl | rfl | rfl <;> rfl
    have steps : Reader.step ⟨stack, .numeral phase n⟩ b = stepNumeral stack phase n b := rfl
    rw [run, steps, stepNumeral, extend?_of_apart whole n mark]
    simp only [ends, other, Bool.and_false, Bool.not_false, Bool.and_true, if_true]
    cases stack with
    | nil => rfl
    | cons frame stack => cases frame <;> rfl

theorem accumulate_of_lt {start : Nat} {ds : List Nat}
    (fits : Text.tally start ds < 18446744073709551616) :
    Numeral.accumulate start ds = (Text.tally start ds, []) := by
  induction ds generalizing start with
  | nil => rfl
  | cons d ds ih =>
    have least := Text.le_tally (start * 10 + d) ds
    rw [Text.tally_cons] at fits ⊢
    rw [Numeral.accumulate, if_pos (Nat.lt_of_le_of_lt least fits)]
    exact ih fits

def leadingPhase (d : Nat) : NumeralPhase := if d = 0 then .zero else .whole

theorem leadingPhase_cases (d : Nat) : leadingPhase d = .zero ∨ leadingPhase d = .whole := by
  unfold leadingPhase
  split
  · exact .inl rfl
  · exact .inr rfl

theorem digitByte_plain : ∀ d < 10, Ascii.isJsonBlank (digitByte d) = false ∧
    digitByte d ≠ Ascii.openBracket ∧ digitByte d ≠ Ascii.openBrace ∧ digitByte d ≠ Ascii.quote ∧
    digitByte d ≠ Ascii.minus ∧ (digitByte d = Ascii.zero ↔ d = 0) := by
  decide

theorem step_leading {d : Nat} (digit : d < 10) (stack : List Frame) :
    Reader.step ⟨stack, .value⟩ (digitByte d) =
      .more ⟨stack, .numeral (leadingPhase d) { whole := [d] }⟩ := by
  obtain ⟨blank, bracket, brace, quote, minus, same⟩ := digitByte_plain d digit
  change stepValue stack (digitByte d) = _
  rw [stepValue, blank, if_neg (by decide), if_neg bracket, if_neg brace, if_neg quote, if_neg minus,
    leadingPhase]
  by_cases zero : d = 0
  · rw [if_pos (same.mpr zero), if_pos zero, zero]
  · rw [if_neg (mt same.mp zero), if_pos (isDigit_digitByte d digit), digit_digitByte d digit,
      if_neg zero]

theorem step_minus_leading {d : Nat} (digit : d < 10) (stack : List Frame) :
    Reader.step ⟨stack, .numeral .minus { negative := true }⟩ (digitByte d) =
      .more ⟨stack, .numeral (leadingPhase d) { negative := true, whole := [d] }⟩ := by
  obtain ⟨_, _, _, _, _, same⟩ := digitByte_plain d digit
  change stepNumeral stack .minus { negative := true } (digitByte d) = _
  rw [stepNumeral, extend?, leadingPhase]
  by_cases zero : d = 0
  · rw [if_pos (same.mpr zero), if_pos zero, zero]
  · rw [if_neg (mt same.mp zero), if_pos (isDigit_digitByte d digit), digit_digitByte d digit,
      if_neg zero]

theorem run_leading {d : Nat} {ds : List Nat} (small : ∀ e ∈ ds, e < 10) (leading : d = 0 → ds = [])
    (negative : Bool) (stack : List Frame) {rest : Bytes} (apart : Apart rest) :
    run ⟨stack, .numeral (leadingPhase d) { negative, whole := [d] }⟩ (ds.map digitByte ++ rest) =
      proceed rest (give (number { negative, whole := d :: ds }) true stack) := by
  by_cases zero : d = 0
  · rw [leading zero]
    exact run_numeral (leadingPhase_cases d) _ stack apart
  · rw [leadingPhase, if_neg zero, run_digits small]
    exact run_numeral (.inr rfl) _ stack apart

theorem number_natural {n : Nat} (fits : n < 18446744073709551616) :
    number { whole := Text.digits n } = .number (.ok (.integer n)) := by
  have total : Text.tally 0 (Text.digits n) < 18446744073709551616 := by rwa [Text.tally_digits]
  rw [number, Numeral.number?, accumulate_of_lt total, Text.tally_digits]
  rfl

theorem number_negative {n : Nat} (positive : 0 < n) (fits : n ≤ 9223372036854775808) :
    number { negative := true, whole := Text.digits n } = .number (.ok (.integer (-n))) := by
  have total : Text.tally 0 (Text.digits n) < 18446744073709551616 := by
    rw [Text.tally_digits]
    omega
  rw [number, Numeral.number?, accumulate_of_lt total, Text.tally_digits]
  simp [positive, fits]

theorem run_integer {n : Int} (fits : Number.isExact (.integer n) = true) (stack : List Frame)
    {rest : Bytes} (apart : Apart rest) :
    run ⟨stack, .value⟩ (Bytes.ofChars (toString n).toList ++ rest) =
      proceed rest (give (.number (.ok (.integer n))) true stack) := by
  have bounds : -9223372036854775808 ≤ n ∧ n < 18446744073709551616 := by
    simpa [Number.isExact] using fits
  obtain ⟨d, ds, shape, leading⟩ := Text.digits_eq_cons n.natAbs
  have small := Text.digits_lt n.natAbs
  have bytes := ofChars_digitChars small
  rw [shape] at small bytes
  have first : d < 10 := small d (by simp)
  have others : ∀ e ∈ ds, e < 10 := fun e member => small e (by simp [member])
  have alone : d = 0 → ds = [] := fun zero => (leading zero).2
  by_cases negative : n < 0
  · have sign : Reader.step ⟨stack, .value⟩ Ascii.minus =
        .more ⟨stack, .numeral .minus { negative := true }⟩ := rfl
    have value := number_negative (n := n.natAbs) (by omega) (by omega)
    rw [Text.toString_negative negative, shape, Bytes.ofChars_cons, bytes]
    change run _ (Ascii.minus :: digitByte d :: (ds.map digitByte ++ rest)) = _
    rw [run_more sign, run_more (step_minus_leading first stack),
      run_leading others alone true stack apart, ← shape, value]
    congr
    omega
  · obtain ⟨k, rfl⟩ := Int.eq_ofNat_of_zero_le (Int.not_lt.mp negative)
    have value := number_natural (n := k) (by omega)
    rw [Int.natAbs_natCast] at shape
    rw [Text.toString_natCast, shape, bytes]
    change run _ (digitByte d :: (ds.map digitByte ++ rest)) = _
    rw [run_more (step_leading first stack), run_leading others alone false stack apart, ← shape, value]

theorem Apart.comma (bs : Bytes) : Apart (Ascii.comma :: bs) := by
  rintro b _ ⟨⟩
  exact .inl rfl

theorem Apart.closeBracket (bs : Bytes) : Apart (Ascii.closeBracket :: bs) := by
  rintro b _ ⟨⟩
  exact .inr (.inl rfl)

theorem Apart.closeBrace (bs : Bytes) : Apart (Ascii.closeBrace :: bs) := by
  rintro b _ ⟨⟩
  exact .inr (.inr rfl)

theorem chars_head {v : Value} (fits : v.isExact = true) : ∃ b bs, Bytes.ofChars v.chars = b :: bs ∧
    Ascii.isJsonBlank b = false ∧ b ≠ Ascii.closeBracket := by
  cases v with
  | null => exact ⟨_, _, rfl, rfl, by decide⟩
  | bool b => cases b <;> exact ⟨_, _, rfl, rfl, by decide⟩
  | string s => exact ⟨_, _, ofChars_renderString s, rfl, by decide⟩
  | array items => exact ⟨_, _, rfl, rfl, by decide⟩
  | object members => exact ⟨_, _, rfl, rfl, by decide⟩
  | number n =>
    cases n with
    | double bits => cases fits
    | integer n =>
      change ∃ b bs, Bytes.ofChars (toString n).toList = b :: bs ∧ _
      by_cases negative : n < 0
      · rw [Text.toString_negative negative]
        exact ⟨_, _, rfl, rfl, by decide⟩
      · obtain ⟨k, rfl⟩ := Int.eq_ofNat_of_zero_le (Int.not_lt.mp negative)
        obtain ⟨d, ds, shape, _⟩ := Text.digits_eq_cons k
        have small := Text.digits_lt k
        have first : ∀ d < 10, Ascii.isJsonBlank (digitByte d) = false ∧
            digitByte d ≠ Ascii.closeBracket := by
          decide
        rw [Text.toString_natCast, ofChars_digitChars small, shape]
        exact ⟨_, _, rfl, first d (small d (by rw [shape]; simp))⟩

theorem run_item {v : Value} (fits : v.isExact = true) {mode : Mode}
    (next : mode = .listStart ∨ mode = .listNext) (stack : List Frame) (rest : Bytes) :
    run ⟨stack, mode⟩ (Bytes.ofChars v.chars ++ rest) =
      run ⟨stack, .value⟩ (Bytes.ofChars v.chars ++ rest) := by
  obtain ⟨b, bs, shape, solid, opening⟩ := chars_head fits
  have steps : Reader.step ⟨stack, mode⟩ b = Reader.step ⟨stack, .value⟩ b := by
    rcases next with rfl | rfl
    · simp only [Reader.step, solid, if_neg opening, Bool.false_eq_true, if_false]
    · simp only [Reader.step, solid, if_neg opening, Bool.false_eq_true, if_false]
  rw [shape, List.cons_append, run, run, steps]

theorem run_comma_list (items : List Document) (stack : List Frame) (rest : Bytes) :
    run ⟨.list items :: stack, .after⟩ (Ascii.comma :: rest) =
      run ⟨.list items :: stack, .listNext⟩ rest := run_more rfl rest

theorem run_close_list (items : List Document) (stack : List Frame) (rest : Bytes) :
    run ⟨.list items :: stack, .after⟩ (Ascii.closeBracket :: rest) =
      proceed rest (give (.array items.reverse .closed) true stack) := run_gives rfl rest

theorem run_comma_object (members : List (Literal × Document)) (stack : List Frame) (rest : Bytes) :
    run ⟨.object members :: stack, .after⟩ (Ascii.comma :: rest) =
      run ⟨.object members :: stack, .objectNext⟩ rest := run_more rfl rest

theorem run_close_object (members : List (Literal × Document)) (stack : List Frame) (rest : Bytes) :
    run ⟨.object members :: stack, .after⟩ (Ascii.closeBrace :: rest) =
      proceed rest (give (.object members.reverse .closed) true stack) := run_gives rfl rest

theorem run_member_key {mode : Mode} (next : mode = .objectStart ∨ mode = .objectNext) (key : String)
    (members : List (Literal × Document)) (stack : List Frame) (rest : Bytes) :
    run ⟨.object members :: stack, mode⟩ (Bytes.ofChars (renderString key) ++ Ascii.colon :: rest) =
      run ⟨.member members (.ofString key) :: stack, .value⟩ rest := by
  have opened : Reader.step ⟨.object members :: stack, mode⟩ Ascii.quote =
      .more ⟨.object members :: stack, .key (.plain [])⟩ := by
    rcases next with rfl | rfl <;> rfl
  have separated : Reader.step ⟨.member members (.ofString key) :: stack, .colon⟩ Ascii.colon =
      .more ⟨.member members (.ofString key) :: stack, .value⟩ := rfl
  rw [ofChars_renderString, List.cons_append, List.append_assoc, run_more opened]
  change run _ (_ ++ Ascii.quote :: (Ascii.colon :: rest)) = _
  rw [run_renderKey, run_more separated]

mutual

/-- A value is taken off the front and handed to the container around it. -/
theorem run_chars (v : Value) (fits : v.isExact = true) (stack : List Frame) {rest : Bytes}
    (apart : Apart rest) :
    run ⟨stack, .value⟩ (Bytes.ofChars v.chars ++ rest) = proceed rest (give (.ofValue v) true stack) := by
  -- lists and objects go on with their items, by mutual recursion
  cases v with
  | null =>
    change run ⟨stack, .word [0x6C] .null⟩ (0x6C :: rest) = _
    exact run_gives rfl rest
  | bool b =>
    cases b with
    | true =>
      change run ⟨stack, .word [0x65] (.bool true)⟩ (0x65 :: rest) = _
      exact run_gives rfl rest
    | false =>
      change run ⟨stack, .word [0x65] (.bool false)⟩ (0x65 :: rest) = _
      exact run_gives rfl rest
  | string s => exact run_renderString s stack rest
  | number n =>
    cases n with
    | double bits => cases fits
    | integer n => exact run_integer fits stack apart
  | array items =>
    have opened : Reader.step ⟨stack, .value⟩ Ascii.openBracket = .more ⟨.list [] :: stack, .listStart⟩ :=
      rfl
    change run ⟨stack, .value⟩ (Ascii.openBracket :: (Bytes.ofChars (Value.itemChars items) ++ rest)) = _
    rw [run_more opened]
    cases items with
    | nil => exact run_gives rfl rest
    | cons item items => exact run_itemChars (item :: items) nofun fits [] stack rest (.inl rfl)
  | object members =>
    have opened : Reader.step ⟨stack, .value⟩ Ascii.openBrace =
        .more ⟨.object [] :: stack, .objectStart⟩ := rfl
    change run ⟨stack, .value⟩ (Ascii.openBrace :: (Bytes.ofChars (Value.memberChars members) ++ rest)) = _
    rw [run_more opened]
    cases members with
    | nil => exact run_gives rfl rest
    | cons member members => exact run_memberChars (member :: members) nofun fits [] stack rest (.inl rfl)

theorem run_itemChars (items : List Value) (nonempty : items ≠ []) (fits : Value.areExact items = true)
    (done : List Document) (stack : List Frame) (rest : Bytes) {mode : Mode}
    (next : mode = .listStart ∨ mode = .listNext) :
    run ⟨.list done :: stack, mode⟩ (Bytes.ofChars (Value.itemChars items) ++ rest) =
      proceed rest (give (.array (done.reverse ++ Document.ofItems items) .closed) true stack) := by
  cases items with
  | nil => exact absurd rfl nonempty
  | cons item items =>
    obtain ⟨first, others⟩ : item.isExact = true ∧ Value.areExact items = true := by
      simpa [Value.areExact] using fits
    have start (more : Bytes) := run_item first next (.list done :: stack) more
    by_cases last : items = []
    · have value := run_chars item first (.list done :: stack) (.closeBracket rest)
      rw [last, Value.itemChars, Bytes.ofChars_append, List.append_assoc]
      change run _ (Bytes.ofChars item.chars ++ Ascii.closeBracket :: rest) = _
      rw [start, value]
      change run ⟨.list (.ofValue item :: done) :: stack, .after⟩ (Ascii.closeBracket :: rest) = _
      rw [run_close_list, List.reverse_cons]
      rfl
    · have value := run_chars item first (.list done :: stack)
        (.comma (Bytes.ofChars (Value.itemChars items) ++ rest))
      rw [Value.itemChars_cons item last, Bytes.ofChars_append, List.append_assoc]
      change run _ (Bytes.ofChars item.chars ++
        Ascii.comma :: (Bytes.ofChars (Value.itemChars items) ++ rest)) = _
      rw [start, value]
      change run ⟨.list (.ofValue item :: done) :: stack, .after⟩ (Ascii.comma :: _) = _
      rw [run_comma_list, run_itemChars items last others _ stack rest (.inr rfl), List.reverse_cons,
        List.append_assoc]
      rfl

theorem run_memberChars (members : List (String × Value)) (nonempty : members ≠ [])
    (fits : Value.membersExact members = true) (done : List (Literal × Document)) (stack : List Frame)
    (rest : Bytes) {mode : Mode} (next : mode = .objectStart ∨ mode = .objectNext) :
    run ⟨.object done :: stack, mode⟩ (Bytes.ofChars (Value.memberChars members) ++ rest) =
      proceed rest (give (.object (done.reverse ++ Document.ofMembers members) .closed) true stack) := by
  cases members with
  | nil => exact absurd rfl nonempty
  | cons member members =>
    obtain ⟨key, v⟩ := member
    obtain ⟨first, others⟩ : v.isExact = true ∧ Value.membersExact members = true := by
      simpa [Value.membersExact] using fits
    by_cases last : members = []
    · have value := run_chars v first (.member done (.ofString key) :: stack) (.closeBrace rest)
      rw [last, Value.memberChars, List.append_assoc, Bytes.ofChars_append, List.append_assoc]
      change run _ (Bytes.ofChars (renderString key) ++
        Ascii.colon :: (Bytes.ofChars (v.chars ++ _) ++ rest)) = _
      rw [run_member_key next, Bytes.ofChars_append, List.append_assoc]
      change run _ (Bytes.ofChars v.chars ++ Ascii.closeBrace :: rest) = _
      rw [value]
      change run ⟨.object ((.ofString key, .ofValue v) :: done) :: stack, .after⟩
        (Ascii.closeBrace :: rest) = _
      rw [run_close_object, List.reverse_cons]
      rfl
    · have value := run_chars v first (.member done (.ofString key) :: stack)
        (.comma (Bytes.ofChars (Value.memberChars members) ++ rest))
      rw [Value.memberChars_cons key v last, List.append_assoc, Bytes.ofChars_append,
        List.append_assoc]
      change run _ (Bytes.ofChars (renderString key) ++
        Ascii.colon :: (Bytes.ofChars (v.chars ++ _) ++ rest)) = _
      rw [run_member_key next, Bytes.ofChars_append, List.append_assoc]
      change run _ (Bytes.ofChars v.chars ++
        Ascii.comma :: (Bytes.ofChars (Value.memberChars members) ++ rest)) = _
      rw [value]
      change run ⟨.object ((.ofString key, .ofValue v) :: done) :: stack, .after⟩ (Ascii.comma :: _) = _
      rw [run_comma_object, run_memberChars members last others _ stack rest (.inr rfl),
        List.reverse_cons, List.append_assoc]
      rfl

end

theorem read_chars {v : Value} (fits : v.isExact = true) :
    Document.read (Bytes.ofString v.render) = (.ofValue v, []) := by
  have last : Apart [] := nofun
  have whole := run_chars v fits [] last
  rw [List.append_nil] at whole
  rw [Value.render, Bytes.ofString_ofList]
  exact whole

end Reader

end TezosNode.Json
