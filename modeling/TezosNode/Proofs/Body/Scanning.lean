import TezosNode.Proofs.Body.Nesting

/-!
What looking at a buffer finds, and when. A string, a list or an object ends with its last byte and never
before. A buffer that has grown is looked at from where the last look stopped, and what is found and known
then is as if all of it had been looked at once, whatever its bytes are and wherever they were cut.
-/

namespace TezosNode.Body.Extent

open Json

variable {buffer front : Bytes} {e : Extent} {report : Report}

theorem passed_of_ends {length : Nat} (ends : start.resume buffer = (e, .ends length)) :
    ∃ front b back before, buffer = front ++ b :: back ∧ Passed front before ∧
      length = front.length + 1 ∧ e.seen = length ∧ e.depth = before.depth := by
  obtain ⟨front, b, back, before, whole, unfinished, last, seen, depth⟩ := last_of_ends ends
  have passed := passed_of_unfinished unfinished
  exact ⟨front, b, back, before, whole, passed, passed.seen ▸ last, seen, depth⟩

theorem passed_of_bare (bare : start.resume buffer = (e, .bare)) :
    ∃ front b back, buffer = front ++ b :: back ∧ Passed front e := by
  obtain ⟨front, b, back, whole, unfinished, _⟩ := front_of_bare bare
  exact ⟨front, b, back, whole, passed_of_unfinished unfinished⟩

theorem passed_before (look : start.resume buffer = (e, report)) (part : front <+: buffer)
    (short : front.length < e.seen) : ∃ before, Passed front before := by
  cases report with
  | unfinished => exact (passed_of_unfinished look).front part
  | bare =>
    obtain ⟨passable, b, back, rfl, passed⟩ := passed_of_bare look
    rw [passed.seen] at short
    have within := List.prefix_of_prefix_length_le part (List.prefix_append ..) (Nat.le_of_lt short)
    exact passed.front within
  | ends length =>
    obtain ⟨passable, b, back, before, rfl, passed, last, seen, _⟩ := passed_of_ends look
    rw [seen, last] at short
    have within := List.prefix_of_prefix_length_le part (List.prefix_append ..) (Nat.lt_succ_iff.mp short)
    exact passed.front within

/-- Behind blanks, a string, a list or an object is found to end with its last byte, whatever comes after
it. As long as one of its bytes is missing, neither an end nor a bare value is found. -/
theorem ends_with_text {blank text : Bytes} (blanks : Blank blank) (enclosed : Enclosed text) :
    (∀ rest, (start.resume (blank ++ text ++ rest)).2 = .ends (blank.length + text.length)) ∧
      ∀ front, front <+: blank ++ text → front ≠ blank ++ text →
        (start.resume front).2 = .unfinished := by
  have found (rest : Bytes) :
      ∃ after, start.resume (blank ++ text ++ rest) = (after, .ends (blank ++ text).length) :=
    scan_enclosed blanks enclosed rest
  constructor
  · intro rest
    obtain ⟨after, ends⟩ := found rest
    rw [ends, List.length_append]
  · intro front part proper
    obtain ⟨after, ends⟩ := found []
    rw [List.append_nil] at ends
    have seen : after.seen = (blank ++ text).length := seen_of_ends ends
    have shorter : front.length < (blank ++ text).length := by
      apply Nat.lt_of_le_of_ne part.length_le
      exact fun same => proper (part.eq_of_length same)
    obtain ⟨before, passed⟩ := passed_before ends part (seen ▸ shorter)
    rw [passed.afresh]

/-- An object with a closer for its key; its text has quotes, closers and a letter of two bytes. -/
theorem ends_with_text_object :
    let text := [0x7B, 0x22, 0x7D, 0x22, 0x3A, 0x22, 0x5C, 0x22, 0x5D, 0x5C, 0x5C, 0xC3, 0xA9, 0x22, 0x7D]
    Enclosed text ∧ (start.resume ([0x20] ++ text ++ [0x7D, 0x22])).2 = .ends 16 ∧
      (start.resume [0x20, 0x7B, 0x22, 0x7D, 0x22, 0x3A, 0x22, 0x5C, 0x22, 0x5D]).2 = .unfinished := by
  intro text
  have key : Quoted [0x7D] := .plain (by decide) (by decide) (by decide) .nil
  have letter : Quoted [0xC3, 0xA9] :=
    .plain (by decide) (by decide) (by decide) (.plain (by decide) (by decide) (by decide) .nil)
  have words : Quoted [0x5C, 0x22, 0x5D, 0x5C, 0x5C, 0xC3, 0xA9] :=
    .escape rfl (.plain (by decide) (by decide) (by decide) (.escape rfl letter))
  have member := @Spells.lastMember [] _ [] _ rfl key rfl (@Spells.padded [] _ [] rfl (.string words) rfl)
  have enclosed : Enclosed text := ⟨.object member, rfl⟩
  obtain ⟨ends, never⟩ := @ends_with_text [0x20] _ rfl enclosed
  exact ⟨enclosed, ends _, never _ ⟨[0x5C, 0x5C, 0xC3, 0xA9, 0x22, 0x7D], rfl⟩ (by decide)⟩

/-- What comes of looking at a buffer, and again each time it has grown, as long as no end is found. -/
inductive Looks : Bytes → Extent → Report → Prop where
  | first {buffer : Bytes} {e : Extent} {report : Report} : start.resume buffer = (e, report) →
      Looks buffer e report
  | again {buffer more : Bytes} {e after : Extent} {report next : Report} : Looks buffer e report →
      (∀ length, report ≠ .ends length) → e.resume (buffer ++ more) = (after, next) →
      Looks (buffer ++ more) after next

/-- What is found in a buffer and known of it, of which only the bytes matter. -/
structure Scanned (buffer : Bytes) (e : Extent) (report : Report) : Prop where
  afresh : start.resume buffer = (e, report)
  unfinished : report = .unfinished →
    Passed buffer e ∧ ∀ more, e.resume (buffer ++ more) = start.resume (buffer ++ more)
  bare : report = .bare →
    (∃ front b back, buffer = front ++ b :: back ∧ Passed front e) ∧
      ∀ more, e.resume (buffer ++ more) = (e, .bare) ∧ start.resume (buffer ++ more) = (e, .bare)
  ends : ∀ length, report = .ends length → 0 < length ∧ length ≤ buffer.length ∧ e.seen = length ∧
    ∃ before, Passed (buffer.take (length - 1)) before ∧ e.depth = before.depth
  within : e.seen ≤ buffer.length
  way : ∀ front, front <+: buffer → front.length < e.seen → ∃ before, Passed front before

theorem resume_append_of_bare (bare : start.resume buffer = (e, .bare)) (more : Bytes) :
    e.resume (buffer ++ more) = (e, .bare) ∧ start.resume (buffer ++ more) = (e, .bare) := by
  have afresh : start.resume (buffer ++ more) = (e, .bare) := scan_append_of_found bare nofun more
  exact ⟨resume_of_bare afresh, afresh⟩

theorem Looks.afresh (looks : Looks buffer e report) : start.resume buffer = (e, report) := by
  induction looks with
  | first look => exact look
  | @again buffer more e after report next _ endless look found =>
    cases report with
    | ends length => exact absurd rfl (endless length)
    | unfinished => rw [← resume_append_of_unfinished found more, look]
    | bare => rw [(resume_append_of_bare found more).2, ← (resume_append_of_bare found more).1, look]

/-- However often a buffer is looked at while it grows, what is found and known is as after one look. -/
theorem looks_as_one (looks : Looks buffer e report) : Scanned buffer e report := by
  have afresh := looks.afresh
  refine ⟨afresh, ?unfinished, ?bare, ?ends, ?within, fun front part => passed_before afresh part⟩
  case unfinished =>
    rintro rfl
    exact ⟨passed_of_unfinished afresh, resume_append_of_unfinished afresh⟩
  case bare =>
    rintro rfl
    exact ⟨passed_of_bare afresh, resume_append_of_bare afresh⟩
  case ends =>
    rintro length rfl
    obtain ⟨front, b, back, before, rfl, passed, last, seen, depth⟩ := passed_of_ends afresh
    have cut : (front ++ b :: back).take (length - 1) = front := by
      rw [last, Nat.add_sub_cancel, List.take_left]
    rw [cut, List.length_append, List.length_cons]
    exact ⟨by omega, by omega, seen, before, passed, depth⟩
  case within =>
    cases report with
    | unfinished => exact Nat.le_of_eq (passed_of_unfinished afresh).seen
    | bare =>
      obtain ⟨front, b, back, rfl, passed⟩ := passed_of_bare afresh
      rw [passed.seen, List.length_append]
      omega
    | ends length =>
      obtain ⟨front, b, back, before, rfl, _, last, seen, _⟩ := passed_of_ends afresh
      rw [seen, last, List.length_append, List.length_cons]
      omega

/-- A list of one text, cut behind a backslash and before its closing quote, with a closer after it that
closes nothing. -/
theorem looks_as_one_escape :
    let whole := [0x5B, 0x22, 0x5C] ++ [0x22, 0x5D] ++ [0x22, 0x5D, 0x7D]
    Looks [0x5B, 0x22, 0x5C] { seen := 3, depth := 1, quoted := true, escaped := true } .unfinished ∧
      Looks whole { seen := 7, depth := 1 } (.ends 7) ∧
      Scanned whole { seen := 7, depth := 1 } (.ends 7) := by
  intro whole
  have first : Looks [0x5B, 0x22, 0x5C] { seen := 3, depth := 1, quoted := true, escaped := true }
      .unfinished := .first rfl
  have second : Looks ([0x5B, 0x22, 0x5C] ++ [0x22, 0x5D]) { seen := 5, depth := 1, quoted := true }
      .unfinished := first.again nofun rfl
  have third : Looks whole { seen := 7, depth := 1 } (.ends 7) := second.again nofun rfl
  exact ⟨first, third, looks_as_one third⟩

end TezosNode.Body.Extent
