import TezosNode.Body.Extent
import TezosNode.Proofs.Json.Grammar

namespace TezosNode.Body.Extent

open Json

/-- A stop takes the byte as the last one of the value, or leaves it and the extent as they are. -/
theorem step_stop {e stopped : Extent} {b : UInt8} {report : Report}
    (stop : e.step b = .stop stopped report) :
    (report = .ends (e.seen + 1) ∧ stopped.seen = e.seen + 1 ∧ stopped.depth = e.depth) ∨
      report = .bare ∧ stopped = e ∧ e.isIdle = true := by
  unfold step stepQuoted stepPlain at stop
  repeat' split at stop
  all_goals cases stop
  all_goals simp_all [isIdle]

theorem settled_of_stop {e stopped : Extent} {b : UInt8} {report : Report}
    (stop : e.step b = .stop stopped report) : report ≠ .unfinished := by
  rcases step_stop stop with ⟨rfl, _⟩ | ⟨rfl, _⟩ <;> exact nofun

theorem solid_of_bare {e after : Extent} {b : UInt8} (stop : e.step b = .stop after .bare) :
    Ascii.isBlank b = false := by
  unfold step stepQuoted stepPlain at stop
  repeat' split at stop
  all_goals cases stop
  next solid _ => simpa using solid

/-- A byte that does not stop is counted. After it no value has begun only if none had begun before
and the byte is blank. -/
theorem step_next {e after : Extent} {b : UInt8} (next : e.step b = .next after) :
    after.seen = e.seen + 1 ∧
      (after.isIdle = true → e.isIdle = true ∧ Ascii.isBlank b = true) := by
  unfold step stepQuoted stepPlain at next
  repeat' split at next
  all_goals cases next
  all_goals simp_all [isIdle]
  intro outermost
  omega

structure Outside (e : Extent) : Prop where
  unquoted : e.quoted = false
  unescaped : e.escaped = false

def Ordinary (b : UInt8) : Prop := b ≠ Ascii.quote ∧ isOpener b = false ∧ isCloser b = false

instance (b : UInt8) : Decidable (Ordinary b) := inferInstanceAs (Decidable (_ ∧ _ ∧ _))

theorem ordinary_of_all {letters : Bytes}
    (all : letters.all (fun letter => decide (Ordinary letter)) = true) :
    ∀ letter ∈ letters, Ordinary letter :=
  fun letter member => of_decide_eq_true (List.all_eq_true.mp all letter member)

/-- How a byte outside quotes moves the extent on. -/
structure Moved (e : Extent) (b : UInt8) (after : Extent) : Prop where
  quote : b = Ascii.quote → after.depth = e.depth ∧ after.quoted = true ∧ after.escaped = false
  opener : isOpener b = true → after.depth = e.depth + 1 ∧ after.Outside
  closer : isCloser b = true → e.depth = after.depth + 1 ∧ after.Outside ∧ after.depth ≠ 0
  ordinary : Ordinary b → after.depth = e.depth ∧ after.Outside ∧
    (Ascii.isBlank b = false → after.depth ≠ 0)

theorem not_isCloser_of_isOpener {b : UInt8} (opens : isOpener b = true) : isCloser b = false := by
  have either : b = Ascii.openBrace ∨ b = Ascii.openBracket := by simpa [isOpener] using opens
  rcases either with rfl | rfl <;> rfl

theorem moved_of_next {e after : Extent} {b : UInt8} (outside : e.Outside)
    (next : e.step b = .next after) : e.Moved b after := by
  obtain ⟨unquoted, unescaped⟩ := outside
  rw [step, if_neg (by simp [unquoted])] at next
  unfold stepPlain at next
  by_cases quote : b = Ascii.quote
  · subst quote
    cases next
    exact ⟨fun _ => ⟨rfl, rfl, unescaped⟩, fun opens => absurd opens (by decide),
      fun closes => absurd closes (by decide), fun ordinary => absurd rfl ordinary.1⟩
  · rw [if_neg (by simpa using quote)] at next
    have noQuote {p : Prop} (same : b = Ascii.quote) : p := absurd same quote
    by_cases opens : isOpener b = true
    · have closes := not_isCloser_of_isOpener opens
      rw [if_pos opens] at next
      cases next
      exact ⟨noQuote, fun _ => ⟨rfl, unquoted, unescaped⟩, by simp [closes], by simp [Ordinary, opens]⟩
    · rw [if_neg opens] at next
      have noOpener {p : Prop} (opened : isOpener b = true) : p := absurd opened opens
      by_cases closes : isCloser b = true
      · rw [if_pos closes] at next
        split at next
        · cases next
        · next deep =>
          cases next
          refine ⟨noQuote, noOpener, fun _ => ?_, by simp [Ordinary, closes]⟩
          exact ⟨by simp only; omega, ⟨unquoted, unescaped⟩, by simp only; omega⟩
      · rw [if_neg closes] at next
        refine ⟨noQuote, noOpener, fun closed => absurd closed closes, fun _ => ?_⟩
        split at next
        · next blank =>
          cases next
          exact ⟨rfl, ⟨unquoted, unescaped⟩, by simp [blank]⟩
        · split at next
          · cases next
          · next inside =>
            cases next
            exact ⟨rfl, ⟨unquoted, unescaped⟩, fun _ => inside⟩

theorem ordinary_of_isJsonBlank {b : UInt8} (blank : Ascii.isJsonBlank b = true) : Ordinary b := by
  have byte : b = 0x20 ∨ b = 0x09 ∨ b = 0x0A ∨ b = 0x0D := by
    simpa [Ascii.isJsonBlank, or_assoc] using blank
  rcases byte with rfl | rfl | rfl | rfl <;> decide

theorem next_quoted {e after : Extent} {b : UInt8} (quoted : e.quoted = true)
    (next : e.step b = .next after) :
    after.depth = e.depth ∧
      (e.escaped = true → after.quoted = true ∧ after.escaped = false) ∧
      (e.escaped = false → b ≠ Ascii.quote →
        after.quoted = true ∧ after.escaped = decide (b = Ascii.backslash)) ∧
      (e.escaped = false → b = Ascii.quote → after.Outside ∧ after.depth ≠ 0) := by
  rw [step, if_pos quoted] at next
  unfold stepQuoted at next
  cases escaped : e.escaped with
  | true =>
    rw [escaped] at next
    cases next
    simp [quoted]
  | false =>
    rw [escaped] at next
    by_cases slash : b = Ascii.backslash
    · subst slash
      cases next
      refine ⟨rfl, by simp, fun _ _ => ⟨quoted, rfl⟩, fun _ same => ?_⟩
      exact absurd same (by decide)
    · by_cases quote : b = Ascii.quote
      · subst quote
        simp only [Bool.false_eq_true, if_false, beq_iff_eq, if_neg slash, if_true] at next
        split at next
        · cases next
        · next inside =>
          cases next
          exact ⟨rfl, by simp, fun _ other => absurd rfl other, fun _ _ => ⟨⟨rfl, rfl⟩, inside⟩⟩
      · simp only [Bool.false_eq_true, if_false, beq_iff_eq, if_neg slash, if_neg quote] at next
        cases next
        refine ⟨rfl, by simp, fun _ _ => ⟨quoted, ?_⟩, fun _ same => absurd same quote⟩
        simp [slash]

theorem scan_cons (e : Extent) (b : UInt8) (bs : Bytes) :
    e.scan (b :: bs) =
      match e.step b with
      | .next e => e.scan bs
      | .stop e report => (e, report) := rfl

theorem scan_next {e after : Extent} {b : UInt8} (next : e.step b = .next after) (bs : Bytes) :
    e.scan (b :: bs) = after.scan bs := by
  rw [scan_cons, next]

theorem scan_append_of_unfinished {e after : Extent} {front : Bytes}
    (unfinished : e.scan front = (after, .unfinished)) (back : Bytes) :
    e.scan (front ++ back) = after.scan back := by
  induction front generalizing e with
  | nil =>
    cases unfinished
    rfl
  | cons b front ih =>
    rw [scan_cons] at unfinished
    rw [List.cons_append, scan_cons]
    cases step : e.step b with
    | next e =>
      rw [step] at unfinished
      exact ih unfinished
    | stop e report =>
      rw [step] at unfinished
      cases unfinished
      exact absurd rfl (settled_of_stop step)

/-- What was found stays found, whatever comes after it. -/
theorem scan_append_of_found {e after : Extent} {front : Bytes} {report : Report}
    (found : e.scan front = (after, report)) (settled : report ≠ .unfinished) (back : Bytes) :
    e.scan (front ++ back) = (after, report) := by
  induction front generalizing e with
  | nil =>
    cases found
    exact absurd rfl settled
  | cons b front ih =>
    rw [scan_cons] at found
    rw [List.cons_append, scan_cons]
    cases step : e.step b with
    | next e =>
      rw [step] at found
      exact ih found
    | stop e report =>
      rw [step] at found
      exact found

theorem front_of_unfinished {e after : Extent} {front back : Bytes}
    (unfinished : e.scan (front ++ back) = (after, .unfinished)) :
    ∃ before, e.scan front = (before, .unfinished) := by
  rcases found : e.scan front with ⟨before, report⟩
  by_cases settled : report = .unfinished
  · exact ⟨before, by rw [settled]⟩
  · rw [scan_append_of_found found settled] at unfinished
    cases unfinished
    exact absurd rfl settled

theorem seen_of_unfinished {e after : Extent} {bs : Bytes}
    (unfinished : e.scan bs = (after, .unfinished)) : after.seen = e.seen + bs.length := by
  induction bs generalizing e with
  | nil =>
    cases unfinished
    rfl
  | cons b bs ih =>
    rw [scan_cons] at unfinished
    cases step : e.step b with
    | next e =>
      rw [step] at unfinished
      rw [ih unfinished, (step_next step).1, List.length_cons]
      omega
    | stop e report =>
      rw [step] at unfinished
      cases unfinished
      exact absurd rfl (settled_of_stop step)

theorem stop_of_found {e after : Extent} {bs : Bytes} {report : Report}
    (found : e.scan bs = (after, report)) (settled : report ≠ .unfinished) :
    ∃ front b back before, bs = front ++ b :: back ∧ e.scan front = (before, .unfinished) ∧
      before.step b = .stop after report := by
  induction bs generalizing e with
  | nil =>
    cases found
    exact absurd rfl settled
  | cons b bs ih =>
    rw [scan_cons] at found
    cases step : e.step b with
    | next e' =>
      rw [step] at found
      obtain ⟨front, last, back, before, rfl, unfinished, stop⟩ := ih found
      exact ⟨b :: front, last, back, before, rfl, by rw [scan_next step, unfinished], stop⟩
    | stop e' report' =>
      rw [step] at found
      cases found
      exact ⟨[], b, bs, e, rfl, rfl, step⟩

theorem front_of_bare {e after : Extent} {bs : Bytes} (bare : e.scan bs = (after, .bare)) :
    ∃ front b back, bs = front ++ b :: back ∧ e.scan front = (after, .unfinished) ∧
      after.step b = .stop after .bare := by
  obtain ⟨front, b, back, before, whole, unfinished, stop⟩ := stop_of_found bare nofun
  rcases step_stop stop with ⟨ends, _⟩ | ⟨_, rfl, _⟩
  · cases ends
  · exact ⟨front, b, back, whole, unfinished, stop⟩

theorem last_of_ends {e after : Extent} {bs : Bytes} {length : Nat}
    (ends : e.scan bs = (after, .ends length)) :
    ∃ front b back before, bs = front ++ b :: back ∧ e.scan front = (before, .unfinished) ∧
      length = before.seen + 1 ∧ after.seen = length ∧ after.depth = before.depth := by
  obtain ⟨front, b, back, before, whole, unfinished, stop⟩ := stop_of_found ends nofun
  rcases step_stop stop with ⟨found, seen, depth⟩ | ⟨bare, _⟩
  · rw [Report.ends.injEq] at found
    exact ⟨front, b, back, before, whole, unfinished, found, seen.trans found.symm, depth⟩
  · cases bare

theorem seen_of_ends {e after : Extent} {bs : Bytes} {length : Nat}
    (ends : e.scan bs = (after, .ends length)) : after.seen = length := by
  obtain ⟨_, _, _, _, _, _, _, seen, _⟩ := last_of_ends ends
  exact seen

theorem ends_bounds {e after : Extent} {bs : Bytes} {length : Nat}
    (ends : e.scan bs = (after, .ends length)) :
    e.seen < length ∧ length ≤ e.seen + bs.length := by
  obtain ⟨front, b, back, before, rfl, unfinished, last, _⟩ := last_of_ends ends
  rw [last, seen_of_unfinished unfinished, List.length_append, List.length_cons]
  omega

theorem blank_of_idle {e after : Extent} {bs : Bytes}
    (unfinished : e.scan bs = (after, .unfinished)) (idle : after.isIdle = true) :
    e.isIdle = true ∧ bs.all Ascii.isBlank = true := by
  induction bs generalizing e with
  | nil =>
    cases unfinished
    exact ⟨idle, rfl⟩
  | cons b bs ih =>
    rw [scan_cons] at unfinished
    cases step : e.step b with
    | next e =>
      rw [step] at unfinished
      have later := ih unfinished
      have now := (step_next step).2 later.1
      exact ⟨now.1, by rw [List.all_cons, now.2, later.2, Bool.and_true]⟩
    | stop e report =>
      rw [step] at unfinished
      cases unfinished
      exact absurd rfl (settled_of_stop step)

def plain (seen depth : Nat) : Extent := { seen, depth }

def inQuotes (seen depth : Nat) : Extent := { seen, depth, quoted := true }

/-- Bytes that leave the depth as it is, from a depth on. -/
def Passes (least : Nat) (bs : Bytes) : Prop :=
  ∀ seen depth rest, least ≤ depth →
    (plain seen depth).scan (bs ++ rest) = (plain (seen + bs.length) depth).scan rest

theorem Passes.append {least : Nat} {front back : Bytes} (first : Passes least front)
    (second : Passes least back) : Passes least (front ++ back) := by
  intro seen depth rest deep
  rw [List.append_assoc, first seen depth _ deep, second _ depth rest deep, List.length_append,
    Nat.add_assoc]

theorem Passes.nil (least : Nat) : Passes least [] := by
  intro seen depth rest _
  rfl

theorem Passes.byte {b : UInt8} (quote : b ≠ Ascii.quote) (opener : isOpener b = false)
    (closer : isCloser b = false) : Passes 1 [b] := by
  intro seen depth rest deep
  have step : (plain seen depth).step b = .next (plain (seen + 1) depth) := by
    have inside : depth ≠ 0 := by omega
    simp [step, stepPlain, plain, quote, opener, closer, inside]
  exact scan_next step rest

theorem Passes.bytes {bs : Bytes}
    (ordinary : ∀ b ∈ bs, b ≠ Ascii.quote ∧ isOpener b = false ∧ isCloser b = false) :
    Passes 1 bs := by
  induction bs with
  | nil => exact .nil 1
  | cons b bs ih =>
    have head := ordinary b (by simp)
    exact (byte head.1 head.2.1 head.2.2).append (ih fun b' member => ordinary b' (by simp [member]))

theorem Passes.blank {bs : Bytes} (blank : Blank bs) : Passes 0 bs := by
  induction bs with
  | nil => exact .nil 0
  | cons b bs ih =>
    have all : Ascii.isJsonBlank b = true ∧ Blank bs := by simpa [Blank] using blank
    have head : Passes 0 [b] := by
      intro seen depth rest _
      have byte : b = 0x20 ∨ b = 0x09 ∨ b = 0x0A ∨ b = 0x0D := by
        simpa [Ascii.isJsonBlank, or_assoc] using all.1
      rcases byte with rfl | rfl | rfl | rfl <;> rfl
    exact head.append (ih all.2)

theorem Passes.mono {least more : Nat} {bs : Bytes} (passes : Passes least bs)
    (deeper : least ≤ more) : Passes more bs := by
  intro seen depth rest deep
  exact passes seen depth rest (Nat.le_trans deeper deep)

theorem scan_quoted {bs : Bytes} (quoted : Quoted bs) (seen depth : Nat) (rest : Bytes) :
    (inQuotes seen depth).scan (bs ++ rest) = (inQuotes (seen + bs.length) depth).scan rest := by
  have ordinary (b : UInt8) (quote : b ≠ Ascii.quote) (backslash : b ≠ Ascii.backslash)
      (seen : Nat) (rest : Bytes) :
      (inQuotes seen depth).scan (b :: rest) = (inQuotes (seen + 1) depth).scan rest := by
    apply scan_next
    simp [step, stepQuoted, inQuotes, quote, backslash]
  have escaped (b : UInt8) (seen : Nat) (rest : Bytes) :
      (inQuotes seen depth).scan (Ascii.backslash :: b :: rest) =
        (inQuotes (seen + 2) depth).scan rest := by
    have marks : (inQuotes seen depth).step Ascii.backslash =
        .next { inQuotes (seen + 1) depth with escaped := true } := rfl
    rw [scan_next marks]
    exact scan_next rfl rest
  induction quoted generalizing seen with
  | nil => rfl
  | plain _ quote backslash _ ih =>
    rw [List.cons_append, ordinary _ quote backslash, ih, List.length_cons]
    congr 2
    omega
  | escape _ _ ih =>
    rw [List.cons_append, List.cons_append, escaped, ih]
    congr 2
    simp only [List.length_cons]
    omega
  | @codePoint digits bs four hex _ ih =>
    -- the letter after the backslash is skipped, its four digits are ordinary bytes
    have digit (b : UInt8) (known : (Ascii.hexDigit? b).isSome = true) :
        b ≠ Ascii.quote ∧ b ≠ Ascii.backslash := by
      constructor <;> rintro rfl <;> exact absurd known (by decide)
    obtain ⟨d1, d2, d3, d4, rfl⟩ : ∃ d1 d2 d3 d4, digits = [d1, d2, d3, d4] := by
      match digits, four with
      | [d1, d2, d3, d4], _ => exact ⟨d1, d2, d3, d4, rfl⟩
    have each := List.all_eq_true.mp hex
    have first := digit d1 (each d1 (by simp))
    have second := digit d2 (each d2 (by simp))
    have third := digit d3 (each d3 (by simp))
    have fourth := digit d4 (each d4 (by simp))
    simp only [List.cons_append, List.nil_append]
    rw [escaped, ordinary d1 first.1 first.2, ordinary d2 second.1 second.2,
      ordinary d3 third.1 third.2, ordinary d4 fourth.1 fourth.2, ih]
    congr 2
    simp only [List.length_cons]
    omega

theorem scan_string {bs : Bytes} (quoted : Quoted bs) (seen depth : Nat) (rest : Bytes) :
    (plain seen depth).scan (Ascii.quote :: bs ++ rest) =
      (inQuotes (seen + (Ascii.quote :: bs).length) depth).scan rest := by
  have opens : (plain seen depth).step Ascii.quote = .next (inQuotes (seen + 1) depth) := rfl
  rw [List.cons_append, scan_next opens, scan_quoted quoted, List.length_cons, Nat.add_assoc,
    Nat.add_comm 1]

theorem scan_opened {opener : UInt8} {bs : Bytes} (opens : isOpener opener = true)
    (inner : Passes 1 bs) (seen depth : Nat) (rest : Bytes) :
    (plain seen depth).scan (opener :: bs ++ rest) =
      (plain (seen + (opener :: bs).length) (depth + 1)).scan rest := by
  have noQuote : opener ≠ Ascii.quote := by
    rintro rfl
    exact absurd opens (by decide)
  have opening : (plain seen depth).step opener = .next (plain (seen + 1) (depth + 1)) := by
    simp [step, stepPlain, plain, noQuote, opens]
  rw [List.cons_append, scan_next opening, inner _ _ _ (by omega), List.length_cons, Nat.add_assoc,
    Nat.add_comm 1]

theorem step_closer {closer : UInt8} (closes : isCloser closer = true) (seen depth : Nat) :
    (plain seen (depth + 1)).step closer =
      if depth = 0 then .stop (plain (seen + 1) 1) (.ends (seen + 1))
      else .next (plain (seen + 1) depth) := by
  have closer : closer = Ascii.closeBrace ∨ closer = Ascii.closeBracket := by
    simpa [isCloser] using closes
  by_cases outermost : depth = 0 <;> rcases closer with rfl | rfl <;>
    simp [step, stepPlain, plain, isOpener, isCloser, Ascii.quote, Ascii.openBrace,
      Ascii.openBracket, Ascii.closeBrace, Ascii.closeBracket, outermost]

theorem step_closing_quote (seen depth : Nat) :
    (inQuotes seen depth).step Ascii.quote =
      if depth = 0 then .stop (plain (seen + 1) 0) (.ends (seen + 1))
      else .next (plain (seen + 1) depth) := by
  by_cases outermost : depth = 0 <;>
    simp [step, stepQuoted, inQuotes, plain, outermost, Ascii.quote, Ascii.backslash]

theorem Passes.string {bs : Bytes} (quoted : Quoted bs) :
    Passes 1 (Ascii.quote :: bs ++ [Ascii.quote]) := by
  intro seen depth rest deep
  rw [List.append_assoc, scan_string quoted, List.singleton_append,
    scan_next ((step_closing_quote _ depth).trans (if_neg (by omega))), List.length_append]
  rfl

theorem Passes.bracketed {opener closer : UInt8} {bs : Bytes} (opens : isOpener opener = true)
    (closes : isCloser closer = true) (inner : Passes 1 bs) : Passes 1 (opener :: bs ++ [closer]) := by
  intro seen depth rest deep
  rw [List.append_assoc, scan_opened opens inner, List.singleton_append,
    scan_next ((step_closer closes _ depth).trans (if_neg (by omega))), List.length_append]
  rfl

theorem ordinary_of_isNumeralByte {b : UInt8} (numeral : isNumeralByte b = true) :
    b ≠ Ascii.quote ∧ isOpener b = false ∧ isCloser b = false := by
  have brackets (bracket : UInt8) (other : isNumeralByte bracket = false) : b ≠ bracket := by
    rintro rfl
    rw [numeral] at other
    cases other
  refine ⟨brackets _ rfl, ?_, ?_⟩
  · simp [isOpener, brackets Ascii.openBrace rfl, brackets Ascii.openBracket rfl]
  · simp [isCloser, brackets Ascii.closeBrace rfl, brackets Ascii.closeBracket rfl]

theorem Passes.part {part : Part} {bs : Bytes} (spells : Spells part bs) : Passes 1 bs := by
  have colon : Passes 1 [Ascii.colon] := byte (by decide) rfl rfl
  have comma : Passes 1 [Ascii.comma] := byte (by decide) rfl rfl
  have blank {bs : Bytes} (blank : Blank bs) : Passes 1 bs := (Passes.blank blank).mono (by omega)
  have key {before key after bs : Bytes} (front : Blank before) (quoted : Quoted key)
      (back : Blank after) (value : Passes 1 bs) :
      Passes 1 (before ++ Ascii.quote :: key ++ Ascii.quote :: after ++ Ascii.colon :: bs) := by
    have chain := (blank front).append ((string quoted).append ((blank back).append (colon.append value)))
    simpa using chain
  have word (letters : Bytes) (plain : letters.all (fun b =>
      b != Ascii.quote && !isOpener b && !isCloser b) = true) : Passes 1 letters := by
    apply bytes
    intro b member
    have all := List.all_eq_true.mp plain b member
    simpa [and_assoc] using all
  induction spells with
  | nullWord => exact word _ rfl
  | trueWord => exact word _ rfl
  | falseWord => exact word _ rfl
  | numeral numeral =>
    have all := List.all_eq_true.mp numeral.bytes
    exact bytes fun b member => ordinary_of_isNumeralByte (all b member)
  | string quoted => exact string quoted
  | noItems inner => exact bracketed rfl rfl (blank inner)
  | list _ ih => exact bracketed rfl rfl ih
  | noMembers inner => exact bracketed rfl rfl (blank inner)
  | object _ ih => exact bracketed rfl rfl ih
  | padded before _ after ih => exact ((blank before).append ih).append (blank after)
  | lastItem _ ih => exact ih
  | item _ _ ih others => exact ih.append (comma.append others)
  | lastMember before quoted after _ ih => exact key before quoted after ih
  | member before quoted after _ _ ih others =>
    have chain := (key before quoted after ih).append (comma.append others)
    simpa using chain

/-- A string, a list or an object ends with its last byte, however much is looked at. -/
theorem scan_enclosed {blank text : Bytes} (blanks : Blank blank) (enclosed : Enclosed text)
    (rest : Bytes) : ∃ after, start.scan (blank ++ text ++ rest) =
      (after, .ends (blank ++ text).length) := by
  have begun : start.scan (blank ++ text ++ rest) = (plain blank.length 0).scan (text ++ rest) := by
    rw [List.append_assoc]
    simpa [plain, start] using Passes.blank blanks 0 0 (text ++ rest) (Nat.le_refl 0)
  have bracketed {opener closer : UInt8} {inner : Bytes} (opens : isOpener opener = true)
      (closes : isCloser closer = true) (passes : Passes 1 inner) :
      ∃ after, (plain blank.length 0).scan (opener :: inner ++ [closer] ++ rest) =
        (after, .ends (blank ++ (opener :: inner ++ [closer])).length) := by
    refine ⟨plain (blank.length + (opener :: inner).length + 1) 1, ?_⟩
    rw [List.append_assoc, scan_opened opens passes, List.singleton_append, scan_cons,
      step_closer closes, if_pos rfl, List.length_append, List.length_append]
    rfl
  rw [begun]
  rcases enclosed.cases with ⟨inner, quoted, rfl⟩ | ⟨inner, items, rfl⟩ | ⟨inner, members, rfl⟩
  · refine ⟨plain (blank.length + (Ascii.quote :: inner).length + 1) 0, ?_⟩
    rw [List.append_assoc, scan_string quoted, List.singleton_append, scan_cons,
      step_closing_quote, if_pos rfl, List.length_append, List.length_append]
    rfl
  · exact bracketed rfl rfl (items.elim (fun blank => (Passes.blank blank).mono (by omega)) .part)
  · exact bracketed rfl rfl (members.elim (fun blank => (Passes.blank blank).mono (by omega)) .part)

end TezosNode.Body.Extent
