import TezosNode.Proofs.Text.Digits
import TezosNode.Time.Reading

namespace TezosNode.Time

open Text

section

variable {α β : Type} {x : Taking α} {f : α → Taking β} {cs rest : List Char}

theorem bind_taken {a : α} {left : List Char} (taken : x cs = .ok (a, left)) :
    (x >>= f) cs = f a left := by
  change (x cs >>= fun p => f p.1 p.2) = _
  rw [taken]
  rfl

theorem pure_taken (a : α) (cs : List Char) : (pure a : Taking α) cs = .ok (a, cs) := rfl

theorem get_taken (cs : List Char) : (get : Taking (List Char)) cs = .ok (cs, cs) := rfl

theorem set_taken (cs left : List Char) : (set cs : Taking Unit) left = .ok ((), cs) := rfl

theorem of_bind_taken {b : β} (taken : (x >>= f) cs = .ok (b, rest)) :
    ∃ a left, x cs = .ok (a, left) ∧ f a left = .ok (b, rest) := by
  replace taken : (x cs >>= fun p => f p.1 p.2) = .ok (b, rest) := taken
  cases first : x cs with
  | error fault =>
    rw [first] at taken
    cases taken
  | ok p =>
    rw [first] at taken
    exact ⟨p.1, p.2, rfl, taken⟩

end

def frontDigits (most : Option Nat) (cs : List Char) : List Char :=
  match most with
  | some n => (cs.take n).takeWhile isDigit
  | none => cs.takeWhile isDigit

def numberOf (cs : List Char) : Nat := cs.foldl (fun n c => n * 10 + (digit? c).getD 0) 0

theorem takeNumber_cons (most : Option Nat) (c : Char) (cs : List Char) :
    takeNumber most (c :: cs) =
      if !isDigit c then .error .invalid
      else if 9223372036854775808 ≤ numberOf (frontDigits most (c :: cs)) then .error .outOfRange
      else .ok (numberOf (frontDigits most (c :: cs)),
        (c :: cs).drop (frontDigits most (c :: cs)).length) := by
  change (if _ then _ else _ : Taking Nat) (c :: cs) = _
  split
  · rfl
  · cases most with
    | none =>
      change (if 9223372036854775808 ≤ numberOf (frontDigits none (c :: cs)) then _ else _ : Taking Nat)
        (c :: cs) = _
      split <;> rfl
    | some n =>
      change (if 9223372036854775808 ≤ numberOf (frontDigits (some n) (c :: cs)) then _ else _ : Taking Nat)
        (c :: cs) = _
      split <;> rfl

/-- In the years of the calendar, with leap seconds at the ends of minutes only. -/
structure Instant.Proper (t : Instant) : Prop where
  within : Date.inRange (Date.ofDays (t.second / 86400)).year = true
  bounded : t.nano < 2000000000
  leap : 1000000000 ≤ t.nano → t.second % 60 = 59

theorem Instant.proper_default : ({} : Instant).Proper := ⟨by decide, by decide, by decide⟩

theorem digit?_lt {c : Char} : (digit? c).getD 0 < 10 := by
  unfold digit?
  split
  · rename_i within
    have high : c.toNat ≤ 57 := within.2
    change c.toNat - 48 < 10
    omega
  · decide

theorem numberOf_lt (cs : List Char) : numberOf cs < Decimal.tenTo cs.length := by
  have all : ∀ start, cs.foldl (fun n c => n * 10 + (digit? c).getD 0) start <
      (start + 1) * Decimal.tenTo cs.length := by
    induction cs with
    | nil =>
      intro start
      change start < (start + 1) * 1
      omega
    | cons c cs ih =>
      intro start
      have digit := digit?_lt (c := c)
      rw [List.foldl_cons, List.length_cons, Decimal.tenTo_succ]
      calc
        cs.foldl (fun n c => n * 10 + (digit? c).getD 0) (start * 10 + (digit? c).getD 0) <
            (start * 10 + (digit? c).getD 0 + 1) * Decimal.tenTo cs.length :=
          ih _
        _ ≤ (start + 1) * 10 * Decimal.tenTo cs.length := Nat.mul_le_mul_right _ (by omega)
        _ = (start + 1) * (Decimal.tenTo cs.length * 10) := by
          rw [Nat.mul_assoc, Nat.mul_comm 10]
  have whole := all 0
  rwa [Nat.zero_add, Nat.one_mul] at whole

theorem length_frontDigits_le (most : Nat) (cs : List Char) :
    (frontDigits (some most) cs).length ≤ most ∧ (frontDigits (some most) cs).length ≤ cs.length := by
  have front := (List.takeWhile_sublist (p := isDigit) (l := cs.take most)).length_le
  have length := List.length_take (i := most) (l := cs)
  change (List.takeWhile isDigit (cs.take most)).length ≤ most ∧ _
  rw [length] at front
  exact ⟨Nat.le_trans front (Nat.min_le_left _ _), Nat.le_trans front (Nat.min_le_right _ _)⟩

theorem takeFraction_point (cs : List Char) :
    takeFraction ('.' :: cs) = (takeNumber (some 9) cs).map fun p =>
      (p.1 * Decimal.tenTo (9 - (cs.length - p.2.length)), p.2.dropWhile isDigit) := by
  change (takeNumber (some 9) cs >>= fun p => _) = _
  cases takeNumber (some 9) cs <;> rfl

theorem takeFraction_none {cs : List Char} (pointless : ∀ cs', cs ≠ '.' :: cs') :
    takeFraction cs = .ok (0, cs) := by
  simp only [takeFraction, bind, StateT.bind, get, getThe, MonadStateOf.get, StateT.get, pure,
    Except.pure, Except.bind]
  rfl

theorem takeFraction_lt {cs rest : List Char} {nano : Nat}
    (taken : takeFraction cs = .ok (nano, rest)) : nano < 1000000000 := by
  by_cases point : ∃ cs', cs = '.' :: cs'
  · obtain ⟨cs, rfl⟩ := point
    rw [takeFraction_point] at taken
    cases cs with
    | nil => cases taken
    | cons c cs =>
      rw [takeNumber_cons] at taken
      split at taken
      · cases taken
      · split at taken
        · cases taken
        · cases taken
          obtain ⟨most, fits⟩ := length_frontDigits_le 9 (c :: cs)
          have value := numberOf_lt (frontDigits (some 9) (c :: cs))
          generalize frontDigits (some 9) (c :: cs) = ds at *
          have count : (c :: cs).length - ((c :: cs).drop ds.length).length = ds.length := by
            rw [List.length_drop]
            omega
          rw [count]
          calc
            numberOf ds * Decimal.tenTo (9 - ds.length) <
                Decimal.tenTo ds.length * Decimal.tenTo (9 - ds.length) :=
              Nat.mul_lt_mul_of_pos_right value (Decimal.tenTo_pos _)
            _ = Decimal.tenTo (ds.length + (9 - ds.length)) := (Decimal.tenTo_add _ _).symm
            _ = 1000000000 := by
              rw [Nat.add_sub_cancel' most]
              rfl
  · rw [takeFraction_none fun cs' same => point ⟨cs', same⟩] at taken
    cases taken
    decide

theorem takeTime_spec {cs rest : List Char} {seconds nano : Nat}
    (taken : takeTime cs = .ok ((seconds, nano), rest)) :
    nano < 2000000000 ∧ (1000000000 ≤ nano → seconds % 60 = 59) := by
  obtain ⟨hour, left, _, taken⟩ := of_bind_taken taken
  obtain ⟨_, left, _, taken⟩ := of_bind_taken taken
  obtain ⟨minute, left, _, taken⟩ := of_bind_taken taken
  obtain ⟨_, left, _, taken⟩ := of_bind_taken taken
  obtain ⟨second, left, _, taken⟩ := of_bind_taken taken
  obtain ⟨fraction, left, fractionTaken, taken⟩ := of_bind_taken taken
  obtain ⟨_, left, _, taken⟩ := of_bind_taken taken
  have small := takeFraction_lt fractionTaken
  split at taken
  · cases taken
    omega
  · cases taken
    omega

theorem takeOffset_minutes {cs rest : List Char} {offset : Int}
    (taken : takeOffset cs = .ok (offset, rest)) : offset % 60 = 0 := by
  cases cs with
  | nil => cases taken
  | cons c cs =>
    replace taken : (if _ then _ else if _ then _ else if _ then _ else _ : Taking Int) (c :: cs) =
      .ok (offset, rest) := taken
    split at taken
    · cases taken
      rfl
    · split at taken
      · cases taken
        rfl
      · split at taken
        · obtain ⟨_, left, _, taken⟩ := of_bind_taken taken
          obtain ⟨hours, left, _, taken⟩ := of_bind_taken taken
          obtain ⟨_, left, _, taken⟩ := of_bind_taken taken
          obtain ⟨minutes, left, _, taken⟩ := of_bind_taken taken
          cases taken
          split <;> omega
        · cases taken

theorem takeInstant_proper {cs rest : List Char} {t : Instant}
    (taken : takeInstant cs = .ok (t, rest)) : t.Proper := by
  obtain ⟨date, left, _, taken⟩ := of_bind_taken taken
  obtain ⟨_, left, _, taken⟩ := of_bind_taken taken
  obtain ⟨⟨seconds, nano⟩, left, timeTaken, taken⟩ := of_bind_taken taken
  obtain ⟨offset, left, offsetTaken, taken⟩ := of_bind_taken taken
  obtain ⟨_, left, _, taken⟩ := of_bind_taken taken
  obtain ⟨others, left, _, taken⟩ := of_bind_taken taken
  obtain ⟨bounded, leap⟩ := takeTime_spec timeTaken
  have minutes := takeOffset_minutes offsetTaken
  replace taken : (if !others.isEmpty then _ else _ : Taking Instant) left = .ok (t, rest) := taken
  split at taken
  · cases taken
  · replace taken : (if !date.isValid then _ else _ : Taking Instant) left = .ok (t, rest) := taken
    split at taken
    · cases taken
    · replace taken : (if 86400 ≤ offset.natAbs then _ else _ : Taking Instant) left =
        .ok (t, rest) := taken
      split at taken
      · cases taken
      · replace taken : (if Date.inRange _ then _ else _ : Taking Instant) left = .ok (t, rest) := taken
        split at taken
        · rename_i within
          cases taken
          refine ⟨within, bounded, fun late => ?_⟩
          have last := leap late
          change (date.toDays * 86400 + seconds - offset) % 60 = 59
          omega
        · cases taken

theorem Instant.read_proper {s : String} {t : Instant} (read : Instant.read s = .ok t) :
    t.Proper := by
  replace read : (takeInstant s.toList).map (·.1) = .ok t := read
  cases taken : takeInstant s.toList with
  | error fault =>
    rw [taken] at read
    cases read
  | ok p =>
    rw [taken] at read
    cases read
    exact takeInstant_proper taken

end TezosNode.Time
