import TezosNode.Proofs.Json.Tearing

namespace TezosNode.Json

theorem NumeralText.head {bs : Bytes} (numeral : NumeralText bs) :
    ∃ b rest, bs = b :: rest ∧ isNumeralByte b = true := by
  have bytes := numeral.bytes
  cases bs with
  | cons b rest =>
    rw [List.all_cons, Bool.and_eq_true] at bytes
    exact ⟨b, rest, rfl, bytes.1⟩
  | nil =>
    generalize none : [] = empty at numeral
    cases numeral with
    | positive whole _ _ =>
      obtain ⟨b, rest, rfl, _⟩ := whole.1.head
      cases none
    | negative _ _ _ => cases none

theorem solid_of_isNumeralByte {b : UInt8} (numeral : isNumeralByte b = true) :
    Ascii.isBlank b = false := by
  have other {blank : UInt8} (outside : isNumeralByte blank = false) : (b == blank) = false := by
    rw [beq_eq_false_iff_ne]
    rintro rfl
    rw [numeral] at outside
    cases outside
  simp only [Ascii.isBlank, Ascii.isJsonBlank, Bool.or_eq_false_iff]
  exact ⟨⟨⟨⟨other rfl, other rfl⟩, other rfl⟩, other rfl⟩, other rfl⟩

namespace Reader

/-- Reading these bytes brings a numeral from one phase to another. -/
def Grows (phase : NumeralPhase) (bs : Bytes) (after : NumeralPhase) : Prop :=
  ∀ (stack : List Frame) (n : Numeral), ∃ longer, ∀ rest,
    run ⟨stack, .numeral phase n⟩ (bs ++ rest) = run ⟨stack, .numeral after longer⟩ rest

theorem grows_nil (phase : NumeralPhase) : Grows phase [] phase := fun _ n => ⟨n, fun _ => rfl⟩

theorem Grows.append {phase mid after : NumeralPhase} {front back : Bytes}
    (first : Grows phase front mid) (second : Grows mid back after) :
    Grows phase (front ++ back) after := by
  intro stack n
  obtain ⟨middle, reads⟩ := first stack n
  obtain ⟨longer, goes⟩ := second stack middle
  refine ⟨longer, fun rest => ?_⟩
  rw [List.append_assoc, reads, goes]

theorem Grows.cons {phase mid after : NumeralPhase} {b : UInt8} {bs : Bytes}
    (extended : ∀ n, ∃ longer, extend? phase n b = some (mid, longer)) (grows : Grows mid bs after) :
    Grows phase (b :: bs) after := by
  intro stack n
  obtain ⟨middle, step⟩ := extended n
  obtain ⟨longer, goes⟩ := grows stack middle
  refine ⟨longer, fun rest => ?_⟩
  have steps : Reader.step ⟨stack, .numeral phase n⟩ b = .more ⟨stack, .numeral mid middle⟩ := by
    simp [Reader.step, stepNumeral, step]
  rw [List.cons_append, run, steps]
  exact goes rest

def Counts (phase : NumeralPhase) : Prop := phase = .whole ∨ phase = .fraction ∨ phase = .exponent

theorem grows_counting {phase : NumeralPhase} (counts : Counts phase) {bs : Bytes}
    (digits : bs.all Ascii.isDigit = true) : Grows phase bs phase := by
  induction bs with
  | nil => exact grows_nil phase
  | cons b bs ih =>
    rw [List.all_cons, Bool.and_eq_true] at digits
    apply Grows.cons _ (ih digits.2)
    intro n
    rcases counts with rfl | rfl | rfl <;> simp [extend?, digits.1]

theorem grows_digits {phase after : NumeralPhase} (counts : Counts after)
    (begins : ∀ b, Ascii.isDigit b = true → ∀ n, ∃ longer, extend? phase n b = some (after, longer))
    {bs : Bytes} (digits : Digits bs) : Grows phase bs after := by
  obtain ⟨b, others, rfl, digit⟩ := digits.head
  have all := digits.2
  rw [List.all_cons, Bool.and_eq_true] at all
  exact .cons (begins b digit) (grows_counting counts all.2)

theorem grows_fraction {phase : NumeralPhase} (integral : phase = .zero ∨ phase = .whole) {bs : Bytes}
    (fraction : Fraction bs) : Grows phase bs phase ∨ Grows phase bs .fraction := by
  cases fraction with
  | none => exact .inl (grows_nil phase)
  | some digits =>
    have later : Grows .point _ .fraction :=
      grows_digits (.inr (.inl rfl)) (fun b digit n => by simp [extend?, digit]) digits
    have dot : Ascii.isDigit Ascii.dot = false := rfl
    refine .inr (.cons (fun n => ?_) later)
    rcases integral with rfl | rfl <;> simp [extend?, dot]

theorem grows_exponent {phase : NumeralPhase}
    (settled : phase = .zero ∨ phase = .whole ∨ phase = .fraction) {bs : Bytes}
    (exponent : Exponent bs) : Grows phase bs phase ∨ Grows phase bs .exponent := by
  have marked {mark : UInt8} (letter : mark = 0x65 ∨ mark = 0x45) (n : Numeral) :
      ∃ longer, extend? phase n mark = some (.exponentMark, longer) := by
    rcases letter with rfl | rfl <;> rcases settled with rfl | rfl | rfl <;> exact ⟨_, rfl⟩
  cases exponent with
  | none => exact .inl (grows_nil phase)
  | unsigned letter digits =>
    refine .inr (.cons (marked letter) (grows_digits (.inr (.inr rfl)) ?_ digits))
    intro b digit n
    have plus : b ≠ Ascii.plus := by rintro rfl; cases digit
    have minus : b ≠ Ascii.minus := by rintro rfl; cases digit
    simp [extend?, digit, plus, minus]
  | @signed _ mark _ letter sign digits =>
    have signed (n : Numeral) :
        ∃ longer, extend? .exponentMark n mark = some (.exponentSign, longer) := by
      rcases sign with rfl | rfl <;> exact ⟨_, rfl⟩
    refine .inr (.cons (marked letter) (.cons signed (grows_digits (.inr (.inr rfl)) ?_ digits)))
    intro b digit n
    simp [extend?, digit]

theorem grows_rest {phase : NumeralPhase} (integral : phase = .zero ∨ phase = .whole)
    {fraction exponent : Bytes} (first : Fraction fraction) (second : Exponent exponent) :
    ∃ after, after.canEnd = true ∧ Grows phase (fraction ++ exponent) after := by
  have settled : phase.canEnd = true := by rcases integral with rfl | rfl <;> rfl
  rcases grows_fraction integral first with stays | goes
  · have either : phase = .zero ∨ phase = .whole ∨ phase = .fraction := by
      rcases integral with same | same <;> simp [same]
    rcases grows_exponent either second with still | more
    · exact ⟨phase, settled, stays.append still⟩
    · exact ⟨.exponent, rfl, stays.append more⟩
  · rcases grows_exponent (.inr (.inr rfl)) second with still | more
    · exact ⟨.fraction, rfl, goes.append still⟩
    · exact ⟨.exponent, rfl, goes.append more⟩

theorem Whole.cases {bs : Bytes} (whole : Whole bs) : bs = [Ascii.zero] ∨
    ∃ b digits, bs = b :: digits ∧ b ≠ Ascii.zero ∧ Ascii.isDigit b = true ∧
      digits.all Ascii.isDigit = true := by
  obtain ⟨b, digits, rfl, digit⟩ := whole.1.head
  have all := whole.1.2
  rw [List.all_cons, Bool.and_eq_true] at all
  by_cases zero : b = Ascii.zero
  · exact .inl (whole.2 (congrArg some zero))
  · exact .inr ⟨b, digits, rfl, zero, digit, all.2⟩

theorem grows_whole {bs : Bytes} (whole : Whole bs) :
    ∃ phase, (phase = .zero ∨ phase = .whole) ∧ Grows .minus bs phase := by
  rcases Whole.cases whole with rfl | ⟨b, digits, rfl, zero, digit, all⟩
  · exact ⟨.zero, .inl rfl, .cons (fun n => ⟨_, rfl⟩) (grows_nil .zero)⟩
  · refine ⟨.whole, .inr rfl, .cons (fun n => ?_) (grows_counting (.inl rfl) all)⟩
    simp [extend?, zero, digit]

theorem step_digit {b : UInt8} (digit : Ascii.isDigit b = true) (zero : b ≠ Ascii.zero) :
    Reader.step {} b = .more ⟨[], .numeral .whole { whole := [Ascii.digit b] }⟩ := by
  have other {c : UInt8} (outside : Ascii.isDigit c = false) : b ≠ c := by
    rintro rfl
    rw [digit] at outside
    cases outside
  have solid : Ascii.isBlank b = false := solid_of_isNumeralByte (by simp [isNumeralByte, digit])
  have blank : Ascii.isJsonBlank b = false := by
    rw [Ascii.isBlank, Bool.or_eq_false_iff] at solid
    exact solid.1
  have bracket : b ≠ Ascii.openBracket := other rfl
  have brace : b ≠ Ascii.openBrace := other rfl
  have quote : b ≠ Ascii.quote := other rfl
  have minus : b ≠ Ascii.minus := other rfl
  simp [Reader.step, stepValue, blank, bracket, brace, quote, minus, zero, digit]

theorem run_numeralText {bs : Bytes} (numeral : NumeralText bs) :
    ∃ phase n, phase.canEnd = true ∧ ∀ rest, run {} (bs ++ rest) = run ⟨[], .numeral phase n⟩ rest := by
  cases numeral with
  | @positive whole fraction exponent before first second =>
    -- the first digit opens the numeral
    have opens : ∃ phase n, (phase = .zero ∨ phase = .whole) ∧
        ∀ rest, run {} (whole ++ rest) = run ⟨[], .numeral phase n⟩ rest := by
      rcases Whole.cases before with rfl | ⟨b, digits, rfl, zero, digit, all⟩
      · exact ⟨.zero, { whole := [0] }, .inl rfl, fun rest => rfl⟩
      · obtain ⟨n, reads⟩ := grows_counting (.inl rfl) all [] { whole := [Ascii.digit b] }
        refine ⟨.whole, n, .inr rfl, fun rest => ?_⟩
        rw [List.cons_append, run, step_digit digit zero]
        exact reads rest
    obtain ⟨phase, n, integral, reads⟩ := opens
    obtain ⟨after, ends, grows⟩ := grows_rest integral first second
    obtain ⟨longer, goes⟩ := grows [] n
    refine ⟨after, longer, ends, fun rest => ?_⟩
    rw [List.append_assoc, List.append_assoc, reads, ← List.append_assoc, goes]
  | @negative whole fraction exponent before first second =>
    obtain ⟨phase, integral, signed⟩ := grows_whole before
    obtain ⟨after, ends, grows⟩ := grows_rest integral first second
    obtain ⟨longer, goes⟩ := (signed.append grows) [] { negative := true }
    refine ⟨after, longer, ends, fun rest => ?_⟩
    have minus : Reader.step {} Ascii.minus = .more ⟨[], .numeral .minus { negative := true }⟩ := rfl
    calc run {} (Ascii.minus :: whole ++ fraction ++ exponent ++ rest)
        = run {} (Ascii.minus :: (whole ++ (fraction ++ exponent) ++ rest)) := by simp
      _ = run ⟨[], .numeral .minus { negative := true }⟩ (whole ++ (fraction ++ exponent) ++ rest) := by
        rw [run, minus]
      _ = run ⟨[], .numeral after longer⟩ rest := goes rest

theorem run_end {phase : NumeralPhase} {n : Numeral} (ends : phase.canEnd = true) {rest : Bytes}
    (follows : rest.head?.all (fun b => !isNumeralByte b) = true) :
    run ⟨[], .numeral phase n⟩ rest = (number n, rest) := by
  cases rest with
  | nil => simp [run, finish, ends, give]
  | cons b rest =>
    have other : isNumeralByte b = false := by simpa using follows
    have none : extend? phase n b = none := by
      cases extended : extend? phase n b with
      | none => rfl
      | some found =>
        rw [isNumeralByte_of_extend? extended] at other
        cases other
    have digit : Ascii.isDigit b = false := by
      simp only [isNumeralByte, Bool.or_eq_false_iff] at other
      exact other.1.1.1.1.1
    have steps : Reader.step ⟨[], .numeral phase n⟩ b = .value (number n) false := by
      simp [Reader.step, stepNumeral, none, ends, digit, give]
    rw [run, steps]

end Reader

/-- A number is read off the front of a text, and what follows it is left. Only its size can be wrong. -/
theorem Document.read_numeral {bs : Bytes} (numeral : NumeralText bs) :
    ∃ value : Except Malformed Number, (∀ fault, value = .error fault → fault = .numberTooLarge) ∧
      ∀ rest : Bytes, rest.head?.all (fun b => !isNumeralByte b) = true →
        Document.read (bs ++ rest) = (.number value, rest) := by
  obtain ⟨phase, n, ends, reads⟩ := Reader.run_numeralText numeral
  have front (rest : Bytes) (follows : rest.head?.all (fun b => !isNumeralByte b) = true) :
      Document.read (bs ++ rest) = (Reader.number n, rest) := by
    rw [Document.read, reads, Reader.run_end ends follows]
  cases found : n.number? with
  | some value =>
    have same : Reader.number n = .number (.ok value) := by rw [Reader.number, found]
    exact ⟨.ok value, nofun, fun rest follows => same ▸ front rest follows⟩
  | none =>
    have same : Reader.number n = .number (.error .numberTooLarge) := by rw [Reader.number, found]
    refine ⟨.error .numberTooLarge, ?_, fun rest follows => same ▸ front rest follows⟩
    rintro fault ⟨⟩
    rfl

end TezosNode.Json
