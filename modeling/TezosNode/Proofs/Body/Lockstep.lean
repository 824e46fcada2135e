import TezosNode.Proofs.Body.Extent
import TezosNode.Proofs.Json.Tearing

/-!
The reader beside the extent. Where looking at bytes finds no end of a value, reading them finds none
either: the document is torn, it cannot be passed over. The invariant: both are inside as many brackets,
and inside quotes together. Only an escape that is no code point may part them, and such a one tears the
document whatever follows.
-/

namespace TezosNode.Body

open Json

def Meets (e : Extent) : Mode → Prop
  | .string quote | .key quote => e.quoted = true ∧ e.escaped = quote.isEscape
  | .word letters _ =>
    e.Outside ∧ e.depth ≠ 0 ∧ letters ≠ [] ∧ ∀ letter ∈ letters, Extent.Ordinary letter
  | .numeral _ _ => e.Outside ∧ e.depth ≠ 0
  | _ => e.Outside

/-- The extent is inside as many brackets as the reader, and inside quotes with it. -/
structure InStep (reader : Reader) (e : Extent) : Prop where
  depth : e.depth = reader.stack.length
  mode : Meets e reader.mode

/-- The reader is in a string that cannot be mended. -/
def Doomed (reader : Reader) : Prop :=
  ∃ quote : Quote, quote.Doomed ∧ (reader.mode = .string quote ∨ reader.mode = .key quote)

/-- Either the reader goes on beside the extent, or it has torn the document or will. -/
def Follows (e : Extent) : Reader.Step → Prop
  | .more reader => InStep reader e ∨ Doomed reader
  | .value _ _ => False
  | .broken document => document.Torn

section Steps

variable {e after : Extent} {stack : List Frame} {b : UInt8}

theorem follows_give (document : Document) (within : Bool) (outside : e.Outside)
    (depth : e.depth = stack.length) (inside : e.depth ≠ 0) :
    Follows e (Reader.give document within stack) := by
  obtain ⟨frames, given, same⟩ := Reader.give_inside document within stack (by omega)
  rw [given]
  exact .inl ⟨depth.trans same.symm, outside⟩

theorem follows_closer (document : Document) (within : Bool) (outside : e.Outside)
    (depth : e.depth = stack.length) (closer : Extent.isCloser b = true)
    (next : e.step b = .next after) : Follows after (Reader.give document within stack.tail) := by
  obtain ⟨less, outside, inside⟩ := (Extent.moved_of_next outside next).closer closer
  have shallower : after.depth = stack.tail.length := by
    rw [List.length_tail]
    omega
  exact follows_give document within outside shallower inside

theorem follows_ordinary {mode : Mode} (outside : e.Outside) (depth : e.depth = stack.length)
    (ordinary : Extent.Ordinary b) (meets : ∀ e : Extent, e.Outside → Meets e mode)
    (next : e.step b = .next after) : Follows after (.more ⟨stack, mode⟩) := by
  obtain ⟨same, outside, _⟩ := (Extent.moved_of_next outside next).ordinary ordinary
  exact .inl ⟨same.trans depth, meets after outside⟩

theorem follows_blank {mode : Mode} (outside : e.Outside) (depth : e.depth = stack.length)
    (blank : Ascii.isJsonBlank b = true) (meets : ∀ e : Extent, e.Outside → Meets e mode)
    (next : e.step b = .next after) : Follows after (.more ⟨stack, mode⟩) :=
  follows_ordinary outside depth (Extent.ordinary_of_isJsonBlank blank) meets next

theorem follows_key_quote (outside : e.Outside) (depth : e.depth = stack.length)
    (quote : b = Ascii.quote) (next : e.step b = .next after) :
    Follows after (.more ⟨stack, .key {}⟩) := by
  obtain ⟨same, quoted, unescaped⟩ := (Extent.moved_of_next outside next).quote quote
  exact .inl ⟨same.trans depth, quoted, unescaped⟩

theorem follows_after (outside : e.Outside) (depth : e.depth = stack.length)
    (next : e.step b = .next after) : Follows after (Reader.stepAfter stack b) := by
  unfold Reader.stepAfter
  split
  · next blank => exact follows_blank outside depth blank (fun _ outside => outside) next
  · split
    · split
      · next comma =>
        exact follows_ordinary outside depth (comma ▸ by decide) (fun _ outside => outside) next
      · split
        · next closer => exact follows_closer _ _ outside depth (closer ▸ rfl) next
        · exact Reader.endList_torn _ nofun
    · split
      · next comma =>
        exact follows_ordinary outside depth (comma ▸ by decide) (fun _ outside => outside) next
      · split
        · next closer => exact follows_closer _ _ outside depth (closer ▸ rfl) next
        · exact Reader.endObject_torn _ nofun
    · exact Reader.breakOff_torn _ _

theorem solid_of_isDigit (digit : Ascii.isDigit b = true) : Ascii.isBlank b = false := by
  have bounds : 0x30 ≤ b ∧ b ≤ 0x39 := by simpa [Ascii.isDigit] using digit
  have other (blank : UInt8) (low : ¬0x30 ≤ blank) : (b == blank) = false := by
    rw [beq_eq_false_iff_ne]
    rintro rfl
    exact low bounds.1
  simp [Ascii.isBlank, Ascii.isJsonBlank, other 0x20 (by decide), other 0x09 (by decide),
    other 0x0A (by decide), other 0x0D (by decide), other 0x0C (by decide)]

/-- The first byte of a value. Only inside brackets does the extent pass that of a bare one. -/
theorem follows_value (outside : e.Outside) (depth : e.depth = stack.length)
    (next : e.step b = .next after) : Follows after (Reader.stepValue stack b) := by
  have moved := Extent.moved_of_next outside next
  have numeral (phase : NumeralPhase) (n : Numeral) (known : isNumeralByte b = true)
      (solid : Ascii.isBlank b = false) : Follows after (.more ⟨stack, .numeral phase n⟩) := by
    obtain ⟨same, outside, inside⟩ := moved.ordinary (Extent.ordinary_of_isNumeralByte known)
    exact .inl ⟨same.trans depth, outside, inside solid⟩
  have word (letters : Bytes) (document : Document) (some : letters ≠ [])
      (plain : letters.all (fun letter => decide (Extent.Ordinary letter)) = true)
      (known : Extent.Ordinary b ∧ Ascii.isBlank b = false) :
      Follows after (.more ⟨stack, .word letters document⟩) := by
    obtain ⟨same, outside, inside⟩ := moved.ordinary known.1
    exact .inl ⟨same.trans depth, outside, inside known.2, some, Extent.ordinary_of_all plain⟩
  have opened (frame : Frame) (mode : Mode) (meets : ∀ e : Extent, e.Outside → Meets e mode)
      (opener : Extent.isOpener b = true) : Follows after (.more ⟨frame :: stack, mode⟩) := by
    obtain ⟨deeper, outside⟩ := moved.opener opener
    exact .inl ⟨by rw [deeper, depth, List.length_cons], meets after outside⟩
  unfold Reader.stepValue
  refine iteInduction (motive := Follows after)
    (fun blank => follows_blank outside depth blank (fun _ outside => outside) next) fun _ => ?_
  refine iteInduction (motive := Follows after)
    (fun opener => opened _ _ (fun _ outside => outside) (opener ▸ rfl)) fun _ => ?_
  refine iteInduction (motive := Follows after)
    (fun opener => opened _ _ (fun _ outside => outside) (opener ▸ rfl)) fun _ => ?_
  refine iteInduction (motive := Follows after) (fun quote => ?_) fun _ => ?_
  · obtain ⟨same, quoted, unescaped⟩ := moved.quote quote
    exact .inl ⟨same.trans depth, quoted, unescaped⟩
  refine iteInduction (motive := Follows after)
    (fun minus => numeral _ _ (minus ▸ rfl) (minus ▸ rfl)) fun _ => ?_
  refine iteInduction (motive := Follows after)
    (fun zero => numeral _ _ (zero ▸ rfl) (zero ▸ rfl)) fun _ => ?_
  refine iteInduction (motive := Follows after)
    (fun digit => numeral _ _ (by simp [isNumeralByte, digit]) (solid_of_isDigit digit)) fun _ => ?_
  refine iteInduction (motive := Follows after)
    (fun letter => word _ _ (List.cons_ne_nil _ _) rfl (letter ▸ by decide)) fun _ => ?_
  refine iteInduction (motive := Follows after)
    (fun letter => word _ _ (List.cons_ne_nil _ _) rfl (letter ▸ by decide)) fun _ => ?_
  refine iteInduction (motive := Follows after)
    (fun letter => word _ _ (List.cons_ne_nil _ _) rfl (letter ▸ by decide)) fun _ => ?_
  exact Reader.breakOff_torn _ _

theorem follows_numeral (outside : e.Outside) (depth : e.depth = stack.length)
    (inside : e.depth ≠ 0) (phase : NumeralPhase) (n : Numeral) (next : e.step b = .next after) :
    Follows after (Reader.stepNumeral stack phase n b) := by
  unfold Reader.stepNumeral
  split
  · next extended =>
    have ordinary := Extent.ordinary_of_isNumeralByte (Reader.isNumeralByte_of_extend? extended)
    obtain ⟨same, outside, _⟩ := (Extent.moved_of_next outside next).ordinary ordinary
    exact .inl ⟨same.trans depth, outside, same ▸ inside⟩
  · split
    · obtain ⟨frames, given, same⟩ := Reader.give_inside (Reader.number n) false stack (by omega)
      rw [given]
      exact follows_after outside (depth.trans same.symm) next
    · exact Reader.breakOff_torn _ _

theorem follows_word {letters : Bytes} {document : Document} (depth : e.depth = stack.length)
    (meets : Meets e (.word letters document)) (next : e.step b = .next after) :
    Follows after (Reader.step ⟨stack, .word letters document⟩ b) := by
  obtain ⟨outside, inside, some, plain⟩ := meets
  have stays (member : b ∈ letters) := (Extent.moved_of_next outside next).ordinary (plain b member)
  match letters with
  | [] => exact absurd rfl some
  | [letter] =>
    simp only [Reader.step]
    split
    · next known =>
      obtain ⟨same, outside, _⟩ := stays (known ▸ List.mem_cons_self)
      exact follows_give _ _ outside (same.trans depth) (same ▸ inside)
    · exact Reader.breakOff_torn _ _
  | letter :: another :: letters =>
    simp only [Reader.step]
    split
    · next known =>
      obtain ⟨same, outside, _⟩ := stays (known ▸ List.mem_cons_self)
      exact .inl ⟨same.trans depth, outside, same ▸ inside, nofun,
        fun letter member => plain letter (List.mem_cons_of_mem _ member)⟩
    · exact Reader.breakOff_torn _ _

theorem follows_quote (quote : Quote) (meets : e.quoted = true ∧ e.escaped = quote.isEscape)
    (next : e.step b = .next after) :
    match quote.step b with
    | .more other => other.Doomed ∨
        (after.depth = e.depth ∧ after.quoted = true ∧ after.escaped = other.isEscape)
    | .closed _ => after.depth = e.depth ∧ after.Outside ∧ after.depth ≠ 0
    | .failed literal => literal.skipped ≠ .ok () := by
  obtain ⟨quoted, escaped⟩ := meets
  have tells := quote.step_tells b
  obtain ⟨same, wasEscaped, goesOn, closes⟩ := Extent.next_quoted quoted next
  cases step : quote.step b with
  | more other =>
    rw [step] at tells
    rcases tells with doomed | ⟨before, now⟩ | ⟨before, noQuote, now⟩
    · exact .inl doomed
    · obtain ⟨stays, unescaped⟩ := wasEscaped (escaped.trans before)
      exact .inr ⟨same, stays, unescaped.trans now.symm⟩
    · obtain ⟨stays, marks⟩ := goesOn (escaped.trans before) noQuote
      exact .inr ⟨same, stays, marks.trans now.symm⟩
  | closed literal =>
    rw [step] at tells
    exact ⟨same, closes (escaped.trans tells.1) tells.2⟩
  | failed literal =>
    rw [step] at tells
    exact tells

theorem follows_string (quote : Quote) (depth : e.depth = stack.length)
    (meets : e.quoted = true ∧ e.escaped = quote.isEscape) (next : e.step b = .next after) :
    Follows after (Reader.step ⟨stack, .string quote⟩ b) := by
  have told := follows_quote quote meets next
  simp only [Reader.step]
  cases step : quote.step b with
  | more other =>
    rw [step] at told
    rcases told with doomed | ⟨same, stays⟩
    · exact .inr ⟨other, doomed, .inl rfl⟩
    · exact .inl ⟨same.trans depth, stays⟩
  | closed literal =>
    rw [step] at told
    obtain ⟨same, outside, inside⟩ := told
    exact follows_give _ _ outside (same.trans depth) inside
  | failed literal =>
    rw [step] at told
    exact Reader.enclose_torn (Document.torn_string told) _

theorem follows_key (quote : Quote) (depth : e.depth = stack.length)
    (meets : e.quoted = true ∧ e.escaped = quote.isEscape) (next : e.step b = .next after) :
    Follows after (Reader.step ⟨stack, .key quote⟩ b) := by
  have told := follows_quote quote meets next
  simp only [Reader.step]
  cases step : quote.step b with
  | more other =>
    rw [step] at told
    rcases told with doomed | ⟨same, stays⟩
    · exact .inr ⟨other, doomed, .inr rfl⟩
    · exact .inl ⟨same.trans depth, stays⟩
  | closed literal =>
    rw [step] at told
    obtain ⟨same, outside, _⟩ := told
    split
    · next known => cases known
    · next known =>
      cases known
      exact .inl ⟨same.trans depth, outside⟩
    · exact Reader.breakOff_torn _ _
    · exact Reader.breakOff_torn _ _
  | failed literal =>
    split
    · next known => cases known
    · next known => cases known
    · exact Reader.breakOff_torn _ _
    · exact Reader.breakOff_torn _ _

end Steps

theorem InStep.step {reader : Reader} {e after : Extent} {b : UInt8} (beside : InStep reader e)
    (next : e.step b = .next after) : Follows after (reader.step b) := by
  obtain ⟨stack, mode⟩ := reader
  obtain ⟨depth, meets⟩ := beside
  simp only at depth
  cases mode with
  | value => exact follows_value meets depth next
  | listStart =>
    simp only [Reader.step]
    split
    · next blank => exact follows_blank meets depth blank (fun _ outside => outside) next
    · split
      · next closer => exact follows_closer _ _ meets depth (closer ▸ rfl) next
      · exact follows_value meets depth next
  | listNext =>
    simp only [Reader.step]
    split
    · next blank => exact follows_blank meets depth blank (fun _ outside => outside) next
    · split
      · exact Reader.endList_torn _ nofun
      · exact follows_value meets depth next
  | objectStart =>
    simp only [Reader.step]
    split
    · next blank => exact follows_blank meets depth blank (fun _ outside => outside) next
    · split
      · next closer => exact follows_closer _ _ meets depth (closer ▸ rfl) next
      · split
        · next quote => exact follows_key_quote meets depth quote next
        · exact Reader.endObject_torn _ nofun
  | objectNext =>
    simp only [Reader.step]
    split
    · next blank => exact follows_blank meets depth blank (fun _ outside => outside) next
    · split
      · exact Reader.endObject_torn _ nofun
      · split
        · next quote => exact follows_key_quote meets depth quote next
        · exact Reader.endObject_torn _ nofun
  | colon =>
    simp only [Reader.step]
    split
    · next blank => exact follows_blank meets depth blank (fun _ outside => outside) next
    · split
      · next colon =>
        exact follows_ordinary meets depth (colon ▸ by decide) (fun _ outside => outside) next
      · exact Reader.breakOff_torn _ _
  | after => exact follows_after meets depth next
  | word letters document => exact follows_word depth meets next
  | numeral phase n => exact follows_numeral meets.1 depth meets.2 phase n next
  | string quote => exact follows_string quote depth meets next
  | key quote => exact follows_key quote depth meets next

theorem Doomed.step {reader : Reader} (doomed : Doomed reader) (b : UInt8) :
    (∃ next, reader.step b = .more next ∧ Doomed next) ∨
      ∃ document, reader.step b = .broken document ∧ document.Torn := by
  obtain ⟨stack, mode⟩ := reader
  obtain ⟨quote, doomed, known⟩ := doomed
  rcases known with rfl | rfl
  · rcases doomed.step b with ⟨next, step, doomed⟩ | ⟨literal, step, failed⟩
    · exact .inl ⟨⟨stack, .string next⟩, by simp only [Reader.step, step], next, doomed, .inl rfl⟩
    · exact .inr ⟨_, by simp only [Reader.step, step],
        Reader.enclose_torn (Document.torn_string failed) stack⟩
  · rcases doomed.step b with ⟨next, step, doomed⟩ | ⟨literal, step, failed⟩
    · exact .inl ⟨⟨stack, .key next⟩, by simp only [Reader.step, step], next, doomed, .inr rfl⟩
    · right
      simp only [Reader.step, step]
      split
      · next known => cases known
      · next known => cases known
      · exact ⟨_, rfl, Reader.breakOff_torn _ _⟩
      · exact ⟨_, rfl, Reader.breakOff_torn _ _⟩

theorem finishAfter_torn (stack : List Frame) : (Reader.finish.finishAfter stack).Torn := by
  unfold Reader.finish.finishAfter
  split
  · exact Reader.endList_torn _ nofun
  · exact Reader.endObject_torn _ nofun

theorem finish_string_torn (stack : List Frame) (quote : Quote) :
    (Reader.finish ⟨stack, .string quote⟩).Torn :=
  Reader.enclose_torn (Document.torn_string (quote.fail_skipped _)) stack

theorem finish_key_torn (stack : List Frame) (quote : Quote) :
    (Reader.finish ⟨stack, .key quote⟩).Torn := by
  simp only [Reader.finish]
  split <;> exact Reader.breakOff_torn _ _

theorem InStep.finish {reader : Reader} {e : Extent} (beside : InStep reader e) :
    reader.finish.Torn := by
  obtain ⟨stack, mode⟩ := reader
  obtain ⟨depth, meets⟩ := beside
  cases mode with
  | value | colon | word => exact Reader.breakOff_torn _ _
  | listStart | listNext => exact Reader.endList_torn _ nofun
  | objectStart | objectNext => exact Reader.endObject_torn _ nofun
  | after => exact finishAfter_torn stack
  | numeral phase n =>
    obtain ⟨frames, given, _⟩ := Reader.give_inside (Reader.number n) false stack
      fun outermost => meets.2 (depth.trans outermost)
    simp only [Reader.finish]
    split
    · rw [given]
      exact finishAfter_torn frames
    · exact Reader.breakOff_torn _ _
  | string quote => exact finish_string_torn stack quote
  | key quote => exact finish_key_torn stack quote

theorem Doomed.run {reader : Reader} (doomed : Doomed reader) (bs : Bytes) :
    (reader.run bs).1.Torn := by
  induction bs generalizing reader with
  | nil =>
    obtain ⟨stack, mode⟩ := reader
    obtain ⟨quote, _, known⟩ := doomed
    rcases known with rfl | rfl
    · exact finish_string_torn stack quote
    · exact finish_key_torn stack quote
  | cons b bs ih =>
    rw [Reader.run]
    rcases doomed.step b with ⟨next, step, doomed⟩ | ⟨document, step, torn⟩
    · rw [step]
      exact ih doomed
    · rw [step]
      exact torn

theorem InStep.run {reader : Reader} {e after : Extent} (beside : InStep reader e) {bs : Bytes}
    (unfinished : e.scan bs = (after, .unfinished)) : (reader.run bs).1.Torn := by
  induction bs generalizing reader e with
  | nil => exact beside.finish
  | cons b bs ih =>
    rw [Extent.scan_cons] at unfinished
    cases passed : e.step b with
    | next moved =>
      rw [passed] at unfinished
      have follows := beside.step passed
      rw [Reader.run]
      cases step : reader.step b with
      | more next =>
        rw [step] at follows
        rcases follows with beside | doomed
        · exact ih beside unfinished
        · exact doomed.run bs
      | value document within =>
        rw [step] at follows
        exact follows.elim
      | broken document =>
        rw [step] at follows
        exact follows
    | stop stopped report =>
      rw [passed] at unfinished
      cases unfinished
      exact absurd rfl (Extent.settled_of_stop passed)

/-- Bytes in which no end of a value is found hold no value that could be passed over. -/
theorem read_torn {bs : Bytes} {after : Extent}
    (unfinished : Extent.start.scan bs = (after, .unfinished)) : (Document.read bs).1.Torn := by
  have beside : InStep {} Extent.start := ⟨rfl, ⟨rfl, rfl⟩⟩
  exact beside.run unfinished

end TezosNode.Body
