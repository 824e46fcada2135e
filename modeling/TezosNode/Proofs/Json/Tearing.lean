import TezosNode.Proofs.Json.Grammar

/-!
Torn documents: those that cannot be passed over. A text that breaks off or goes wrong tears its
document, whatever is around the place. The steps of a string are told here as they look from outside:
which bytes it takes, and which one ends it.
-/

namespace TezosNode.Json

/-- The document cannot be passed over. -/
def Document.Torn (document : Document) : Prop := document.skip ≠ .ok ()

namespace Document

theorem torn_broken (flaw : Flaw) : (broken flaw).Torn := by
  simp [Torn, skip]

theorem torn_string {literal : Literal} (failed : literal.skipped ≠ .ok ()) :
    (string literal).Torn := by
  simpa [Torn, skip] using failed

theorem skipItems_iff {items : List Document} :
    skipItems items = .ok () ↔ ∀ item ∈ items, item.skip = .ok () := by
  induction items with
  | nil => simp [skipItems]
  | cons item items ih =>
    rw [skipItems, List.forall_mem_cons, ← ih]
    cases item.skip with
    | error fault => exact ⟨nofun, nofun⟩
    | ok _ => exact ⟨fun rest => ⟨rfl, rest⟩, fun both => both.2⟩

theorem skipMembers_iff {members : List (Literal × Document)} :
    skipMembers members = .ok () ↔
      ∀ member ∈ members, member.1.skipped = .ok () ∧ member.2.skip = .ok () := by
  induction members with
  | nil => simp [skipMembers]
  | cons member members ih =>
    obtain ⟨key, value⟩ := member
    rw [skipMembers, List.forall_mem_cons, ← ih]
    cases key.skipped with
    | error fault => exact ⟨nofun, nofun⟩
    | ok _ =>
      cases value.skip with
      | error fault => exact ⟨nofun, nofun⟩
      | ok _ => exact ⟨fun rest => ⟨⟨rfl, rfl⟩, rest⟩, fun both => both.2⟩

theorem skip_array_iff {items : List Document} {ending : ListEnd} :
    (array items ending).skip = .ok () ↔
      (∀ item ∈ items, item.skip = .ok ()) ∧ ending = .closed := by
  have closed : ending.skipped = .ok () ↔ ending = .closed := by
    cases ending <;> simp [ListEnd.skipped, ListEnd.used]
  rw [skip, ← skipItems_iff, ← closed]
  cases skipItems items with
  | error fault => exact ⟨nofun, nofun⟩
  | ok _ => exact ⟨fun ended => ⟨rfl, ended⟩, fun both => both.2⟩

theorem skip_object_iff {members : List (Literal × Document)} {ending : ObjectEnd} :
    (object members ending).skip = .ok () ↔
      (∀ member ∈ members, member.1.skipped = .ok () ∧ member.2.skip = .ok ()) ∧
        ending = .closed := by
  have closed : ending.skipped = .ok () ↔ ending = .closed := by
    cases ending <;> simp [ObjectEnd.skipped, ObjectEnd.used]
  rw [skip, ← skipMembers_iff, ← closed]
  cases skipMembers members with
  | error fault => exact ⟨nofun, nofun⟩
  | ok _ => exact ⟨fun ended => ⟨rfl, ended⟩, fun both => both.2⟩

theorem torn_array (items : List Document) {ending : ListEnd} (unclosed : ending ≠ .closed) :
    (array items ending).Torn := fun passed => unclosed (skip_array_iff.mp passed).2

theorem torn_object (members : List (Literal × Document)) {ending : ObjectEnd}
    (unclosed : ending ≠ .closed) : (object members ending).Torn :=
  fun passed => unclosed (skip_object_iff.mp passed).2

end Document

namespace Reader

/-- Nothing mends a torn document: what is around it is not closed. -/
theorem enclose_torn {document : Document} (torn : document.Torn) (stack : List Frame) :
    (enclose document stack).Torn := by
  induction stack generalizing document with
  | nil => exact torn
  | cons frame stack ih =>
    cases frame with
    | list items => exact ih (Document.torn_array _ nofun)
    | object members => exact ih torn
    | member members key => exact ih (Document.torn_object _ nofun)

theorem breakOff_torn (stack : List Frame) (flaw : Flaw) : (breakOff stack flaw).Torn :=
  enclose_torn (Document.torn_broken flaw) stack

theorem endList_torn (stack : List Frame) {ending : ListEnd} (unclosed : ending ≠ .closed) :
    (endList ending stack).Torn := by
  unfold endList
  split
  · exact enclose_torn (Document.torn_array _ unclosed) _
  · exact breakOff_torn _ _

theorem endObject_torn (stack : List Frame) {ending : ObjectEnd} (unclosed : ending ≠ .closed) :
    (endObject ending stack).Torn := by
  unfold endObject
  split
  · exact enclose_torn (Document.torn_object _ unclosed) _
  · exact breakOff_torn _ _

theorem isNumeralByte_of_extend? {phase after : NumeralPhase} {n longer : Numeral} {b : UInt8}
    (extended : extend? phase n b = some (after, longer)) : isNumeralByte b = true := by
  have zero : isNumeralByte Ascii.zero = true := rfl
  have sign : isNumeralByte Ascii.plus = true ∧ isNumeralByte Ascii.minus = true := ⟨rfl, rfl⟩
  have dot : isNumeralByte Ascii.dot = true := rfl
  have mark : isNumeralByte 0x65 = true ∧ isNumeralByte 0x45 = true := ⟨rfl, rfl⟩
  have digit (known : Ascii.isDigit b = true) : isNumeralByte b = true := by
    simp [isNumeralByte, known]
  unfold extend? at extended
  cases phase <;> simp only at extended <;> repeat' split at extended
  all_goals cases extended
  all_goals grind

theorem give_inside (document : Document) (within : Bool) (stack : List Frame)
    (inside : stack.length ≠ 0) :
    ∃ frames : List Frame, give document within stack = .more ⟨frames, .after⟩ ∧
      frames.length = stack.length := by
  cases stack with
  | nil => exact absurd rfl inside
  | cons frame stack => cases frame <;> exact ⟨_, rfl, rfl⟩

end Reader

namespace Quote

def isEscape (q : Quote) : Bool := q.phase = .escape

/-- The string holds an escape that is no code point. -/
def Doomed (q : Quote) : Prop :=
  ∃ digits, q.phase = .hex digits ∧ ∃ digit ∈ digits, Ascii.hexDigit? digit = none

theorem hexUnit?_isSome {digits : List UInt8} (known : (hexUnit? digits).isSome = true) :
    ∀ digit ∈ digits, (Ascii.hexDigit? digit).isSome = true := by
  unfold hexUnit? at known
  generalize 0 = unit at known
  induction digits generalizing unit with
  | nil => exact nofun
  | cons digit digits ih =>
    rw [List.foldlM_cons] at known
    cases value : Ascii.hexDigit? digit with
    | none => simp [value] at known
    | some n =>
      rw [value] at known
      intro other member
      rcases List.mem_cons.mp member with rfl | member
      · rw [value]
        rfl
      · exact ih _ known other member

def Step.Tells (q : Quote) (b : UInt8) : Step → Prop
  | .more next => next.Doomed ∨
      (q.isEscape = true ∧ next.isEscape = false) ∨
      (q.isEscape = false ∧ b ≠ Ascii.quote ∧ next.isEscape = decide (b = Ascii.backslash))
  | .closed _ => q.isEscape = false ∧ b = Ascii.quote
  | .failed literal => literal.skipped ≠ .ok ()

theorem fail_skipped (q : Quote) (fault : Malformed) : (q.fail fault).skipped ≠ .ok () := nofun

theorem step_tells (q : Quote) (b : UInt8) : (q.step b).Tells q b := by
  obtain ⟨phase, bytes, high⟩ := q
  cases phase with
  | plain =>
    simp only [step]
    split
    · next quote => exact ⟨rfl, quote⟩
    · next quote =>
      split
      · next slash => exact .inr (.inr ⟨rfl, quote, by simp [isEscape, slash]⟩)
      · next slash =>
        split
        · exact fail_skipped _ _
        · refine .inr (.inr ⟨rfl, quote, ?_⟩)
          simp only [push, settle, isEscape, slash, decide_false]
          split <;> rfl
  | escape =>
    simp only [step]
    split
    · exact .inr (.inl ⟨rfl, rfl⟩)
    · split
      · exact .inr (.inl ⟨rfl, rfl⟩)
      · exact fail_skipped _ _
  | hex digits =>
    simp only [step]
    cases digit : Ascii.hexDigit? b with
    | none =>
      have spoiled : ∃ other ∈ digits ++ [b], Ascii.hexDigit? other = none := ⟨b, by simp, digit⟩
      split
      · exact .inl ⟨_, rfl, spoiled⟩
      · split
        · next unit known =>
          obtain ⟨other, member, missing⟩ := spoiled
          have all := hexUnit?_isSome (by rw [known]; rfl) other member
          rw [missing] at all
          cases all
        · exact fail_skipped _ _
    | some n =>
      have quote : b ≠ Ascii.quote := by rintro rfl; cases digit
      have slash : b ≠ Ascii.backslash := by rintro rfl; cases digit
      split
      · exact .inr (.inr ⟨rfl, quote, by simp [isEscape, slash]⟩)
      · split
        · exact .inr (.inr ⟨rfl, quote, by simp [isEscape, slash]⟩)
        · exact fail_skipped _ _

theorem Doomed.step {q : Quote} (doomed : q.Doomed) (b : UInt8) :
    (∃ next, q.step b = .more next ∧ next.Doomed) ∨
      ∃ literal, q.step b = .failed literal ∧ literal.skipped ≠ .ok () := by
  obtain ⟨digits, phase, digit, member, missing⟩ := doomed
  have spoiled : digit ∈ digits ++ [b] := List.mem_append_left _ member
  simp only [Quote.step, phase]
  split
  · exact .inl ⟨_, rfl, digits ++ [b], rfl, digit, spoiled, missing⟩
  · split
    · next unit known =>
      have all := hexUnit?_isSome (by rw [known]; rfl) digit spoiled
      rw [missing] at all
      cases all
    · exact .inr ⟨_, rfl, fail_skipped _ _⟩

end Quote

end TezosNode.Json
