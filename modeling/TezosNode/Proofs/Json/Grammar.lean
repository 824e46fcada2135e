import TezosNode.Json.Reader

namespace TezosNode.Json

def Blank (bs : Bytes) : Prop := bs.all Ascii.isJsonBlank = true

instance (bs : Bytes) : Decidable (Blank bs) := inferInstanceAs (Decidable (_ = true))

theorem Blank.all_isBlank {bs : Bytes} (blanks : Blank bs) : bs.all Ascii.isBlank = true :=
  List.all_eq_true.mpr fun b member =>
    Ascii.isBlank_of_isJsonBlank (List.all_eq_true.mp blanks b member)

def isEscapeLetter (b : UInt8) : Bool :=
  b == 0x22 || b == 0x5C || b == 0x2F || b == 0x62 || b == 0x66 || b == 0x6E || b == 0x72 || b == 0x74

/-- What may stand between the quotes of a string. -/
inductive Quoted : Bytes → Prop where
  | nil : Quoted []
  | plain {b bs} : 0x20 ≤ b → b ≠ Ascii.quote → b ≠ Ascii.backslash → Quoted bs → Quoted (b :: bs)
  | escape {b bs} : isEscapeLetter b = true → Quoted bs → Quoted (Ascii.backslash :: b :: bs)
  | codePoint {digits bs} : digits.length = 4 → (digits.all fun b => (Ascii.hexDigit? b).isSome) = true →
      Quoted bs → Quoted (Ascii.backslash :: 0x75 :: digits ++ bs)

def Digits (bs : Bytes) : Prop := bs ≠ [] ∧ bs.all Ascii.isDigit = true

/-- The digits before the point: a zero stands alone. -/
def Whole (bs : Bytes) : Prop := Digits bs ∧ (bs.head? = some Ascii.zero → bs = [Ascii.zero])

inductive Fraction : Bytes → Prop where
  | none : Fraction []
  | some {bs} : Digits bs → Fraction (Ascii.dot :: bs)

inductive Exponent : Bytes → Prop where
  | none : Exponent []
  | unsigned {mark bs} : mark = 0x65 ∨ mark = 0x45 → Digits bs → Exponent (mark :: bs)
  | signed {mark sign bs} : mark = 0x65 ∨ mark = 0x45 → sign = Ascii.plus ∨ sign = Ascii.minus →
      Digits bs → Exponent (mark :: sign :: bs)

inductive NumeralText : Bytes → Prop where
  | positive {whole fraction exponent} : Whole whole → Fraction fraction → Exponent exponent →
      NumeralText (whole ++ fraction ++ exponent)
  | negative {whole fraction exponent} : Whole whole → Fraction fraction → Exponent exponent →
      NumeralText (Ascii.minus :: whole ++ fraction ++ exponent)

inductive Part where
  | value
  | padded
  | items
  | members
  deriving DecidableEq, Repr

inductive Spells : Part → Bytes → Prop where
  | nullWord : Spells .value [0x6E, 0x75, 0x6C, 0x6C]
  | trueWord : Spells .value [0x74, 0x72, 0x75, 0x65]
  | falseWord : Spells .value [0x66, 0x61, 0x6C, 0x73, 0x65]
  | numeral {bs} : NumeralText bs → Spells .value bs
  | string {bs} : Quoted bs → Spells .value (Ascii.quote :: bs ++ [Ascii.quote])
  | noItems {blank} : Blank blank → Spells .value (Ascii.openBracket :: blank ++ [Ascii.closeBracket])
  | list {bs} : Spells .items bs → Spells .value (Ascii.openBracket :: bs ++ [Ascii.closeBracket])
  | noMembers {blank} : Blank blank → Spells .value (Ascii.openBrace :: blank ++ [Ascii.closeBrace])
  | object {bs} : Spells .members bs → Spells .value (Ascii.openBrace :: bs ++ [Ascii.closeBrace])
  | padded {before bs after} : Blank before → Spells .value bs → Blank after →
      Spells .padded (before ++ bs ++ after)
  | lastItem {bs} : Spells .padded bs → Spells .items bs
  | item {bs others} : Spells .padded bs → Spells .items others →
      Spells .items (bs ++ Ascii.comma :: others)
  | lastMember {before key after bs} : Blank before → Quoted key → Blank after → Spells .padded bs →
      Spells .members (before ++ Ascii.quote :: key ++ Ascii.quote :: after ++ Ascii.colon :: bs)
  | member {before key after bs others} : Blank before → Quoted key → Blank after →
      Spells .padded bs → Spells .members others →
      Spells .members
        (before ++ Ascii.quote :: key ++ Ascii.quote :: after ++ Ascii.colon :: bs ++ Ascii.comma :: others)

/-- Whether a value that begins so shows its own end. -/
def isOpening (b : UInt8) : Bool := b == Ascii.quote || b == Ascii.openBracket || b == Ascii.openBrace

/-- Strings, lists and objects. -/
structure Enclosed (bs : Bytes) : Prop where
  value : Spells .value bs
  opening : bs.head?.any isOpening = true

theorem Digits.head {bs : Bytes} (digits : Digits bs) :
    ∃ b rest, bs = b :: rest ∧ Ascii.isDigit b = true := by
  obtain ⟨nonempty, all⟩ := digits
  cases bs with
  | nil => exact absurd rfl nonempty
  | cons b rest =>
    rw [List.all_cons, Bool.and_eq_true] at all
    exact ⟨b, rest, rfl, all.1⟩

theorem isOpening_of_isDigit {b : UInt8} (digit : Ascii.isDigit b = true) : isOpening b = false := by
  have bounds : 0x30 ≤ b ∧ b ≤ 0x39 := by simpa [Ascii.isDigit] using digit
  have quote : b ≠ Ascii.quote := by rintro rfl; exact absurd bounds (by decide)
  have bracket : b ≠ Ascii.openBracket := by rintro rfl; exact absurd bounds (by decide)
  have brace : b ≠ Ascii.openBrace := by rintro rfl; exact absurd bounds (by decide)
  simp [isOpening, quote, bracket, brace]

def isNumeralByte (b : UInt8) : Bool :=
  Ascii.isDigit b || b == Ascii.minus || b == Ascii.plus || b == Ascii.dot || b == 0x65 || b == 0x45

theorem Digits.bytes {bs : Bytes} (digits : Digits bs) : bs.all isNumeralByte = true := by
  rw [List.all_eq_true]
  intro b member
  have digit := List.all_eq_true.mp digits.2 b member
  simp [isNumeralByte, digit]

theorem Fraction.bytes {bs : Bytes} (fraction : Fraction bs) : bs.all isNumeralByte = true := by
  cases fraction with
  | none => rfl
  | some digits => rw [List.all_cons, digits.bytes]; rfl

theorem Exponent.bytes {bs : Bytes} (exponent : Exponent bs) : bs.all isNumeralByte = true := by
  cases exponent with
  | none => rfl
  | unsigned mark digits =>
    rw [List.all_cons, digits.bytes]
    rcases mark with rfl | rfl <;> rfl
  | signed mark sign digits =>
    rw [List.all_cons, List.all_cons, digits.bytes]
    rcases mark with rfl | rfl <;> rcases sign with rfl | rfl <;> rfl

theorem NumeralText.bytes {bs : Bytes} (numeral : NumeralText bs) :
    bs.all isNumeralByte = true := by
  cases numeral with
  | positive whole fraction exponent =>
    simp [List.all_append, whole.1.bytes, fraction.bytes, exponent.bytes]
  | negative whole fraction exponent =>
    rw [List.cons_append, List.cons_append, List.all_cons, List.all_append, List.all_append,
      whole.1.bytes, fraction.bytes, exponent.bytes]
    rfl

theorem NumeralText.not_opening {bs : Bytes} (numeral : NumeralText bs) :
    bs.head?.any isOpening = false := by
  cases numeral with
  | positive whole _ _ =>
    obtain ⟨b, rest, rfl, digit⟩ := whole.1.head
    simpa using isOpening_of_isDigit digit
  | negative _ _ _ => rfl

theorem Enclosed.cases {bs : Bytes} (enclosed : Enclosed bs) :
    (∃ inner, Quoted inner ∧ bs = Ascii.quote :: inner ++ [Ascii.quote]) ∨
    (∃ inner, (Blank inner ∨ Spells .items inner) ∧
      bs = Ascii.openBracket :: inner ++ [Ascii.closeBracket]) ∨
    ∃ inner, (Blank inner ∨ Spells .members inner) ∧
      bs = Ascii.openBrace :: inner ++ [Ascii.closeBrace] := by
  obtain ⟨value, opening⟩ := enclosed
  cases value with
  | nullWord => cases opening
  | trueWord => cases opening
  | falseWord => cases opening
  | numeral numeral => rw [numeral.not_opening] at opening; cases opening
  | string quoted => exact .inl ⟨_, quoted, rfl⟩
  | noItems blank => exact .inr (.inl ⟨_, .inl blank, rfl⟩)
  | list items => exact .inr (.inl ⟨_, .inr items, rfl⟩)
  | noMembers blank => exact .inr (.inr ⟨_, .inl blank, rfl⟩)
  | object members => exact .inr (.inr ⟨_, .inr members, rfl⟩)

theorem Enclosed.solid {bs : Bytes} (enclosed : Enclosed bs) :
    bs.head?.any Ascii.isBlank = false := by
  rcases enclosed.cases with ⟨inner, _, rfl⟩ | ⟨inner, _, rfl⟩ | ⟨inner, _, rfl⟩ <;> rfl

end TezosNode.Json
