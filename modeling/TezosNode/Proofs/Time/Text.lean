import TezosNode.Proofs.Text.Digits
import TezosNode.Proofs.Time.Calendar
import TezosNode.Proofs.Time.Reading

namespace TezosNode.Time

open Text

theorem isDigit_digitChar : ∀ d < 10, isDigit (Nat.digitChar d) = true := by decide

def Stops : List Char → Prop
  | [] => True
  | c :: _ => isDigit c = false

theorem takeWhile_isDigit_of_stops {cs : List Char} (stops : Stops cs) : cs.takeWhile isDigit = [] := by
  cases cs with
  | nil => rfl
  | cons c cs => exact List.takeWhile_cons_of_neg (by simpa [Stops] using stops)

theorem Stops.take {cs : List Char} (stops : Stops cs) (n : Nat) : Stops (cs.take n) := by
  cases cs with
  | nil => simpa using stops
  | cons c cs =>
    cases n with
    | zero => trivial
    | succ n => exact stops

section

variable {ds : List Nat} {rest : List Char}

theorem isDigit_of_mem (small : ∀ d ∈ ds, d < 10) : ∀ c ∈ digitChars ds, isDigit c = true := by
  intro c member
  obtain ⟨d, present, rfl⟩ := List.mem_map.mp member
  exact isDigit_digitChar d (small d present)

theorem numberOf_digitChars (small : ∀ d ∈ ds, d < 10) : numberOf (digitChars ds) = tally 0 ds := by
  have all : ∀ start, (digitChars ds).foldl (fun n c => n * 10 + (digit? c).getD 0) start =
      tally start ds := by
    induction ds with
    | nil => exact fun _ => rfl
    | cons d ds ih =>
      intro start
      have digit := digit?_digitChar d (small d (by simp))
      change (digitChars ds).foldl _ (start * 10 + (digit? (Nat.digitChar d)).getD 0) = _
      rw [digit]
      exact ih (fun e member => small e (by simp [member])) _
  exact all 0

theorem frontDigits_digitChars {most : Option Nat} (small : ∀ d ∈ ds, d < 10)
    (room : ∀ n, most = some n → ds.length ≤ n) (stops : Stops rest) :
    frontDigits most (digitChars ds ++ rest) = digitChars ds := by
  have all := isDigit_of_mem small
  cases most with
  | none =>
    change (digitChars ds ++ rest).takeWhile isDigit = _
    rw [List.takeWhile_append_of_pos all, takeWhile_isDigit_of_stops stops, List.append_nil]
  | some n =>
    have fits : (digitChars ds).length ≤ n := by
      rw [digitChars, List.length_map]
      exact room n rfl
    change ((digitChars ds ++ rest).take n).takeWhile isDigit = _
    rw [List.take_append, List.take_of_length_le fits, List.takeWhile_append_of_pos all,
      takeWhile_isDigit_of_stops (stops.take _), List.append_nil]

theorem takeNumber_digitChars {most : Option Nat} (nonempty : ds ≠ []) (small : ∀ d ∈ ds, d < 10)
    (fits : tally 0 ds < 9223372036854775808) (room : ∀ n, most = some n → ds.length ≤ n)
    (stops : Stops rest) :
    takeNumber most (digitChars ds ++ rest) = .ok (tally 0 ds, rest) := by
  cases ds with
  | nil => exact absurd rfl nonempty
  | cons d ds =>
    have front := frontDigits_digitChars small room stops
    have leading : isDigit (Nat.digitChar d) = true := isDigit_digitChar d (small d (by simp))
    change takeNumber most (Nat.digitChar d :: (digitChars ds ++ rest)) = _
    rw [takeNumber_cons, leading]
    change (if 9223372036854775808 ≤ numberOf (frontDigits most (digitChars (d :: ds) ++ rest)) then _
      else Except.ok (numberOf (frontDigits most (digitChars (d :: ds) ++ rest)),
        (digitChars (d :: ds) ++ rest).drop
          (frontDigits most (digitChars (d :: ds) ++ rest)).length)) = _
    rw [front, numberOf_digitChars small, if_neg (by omega), List.drop_left]

end

def paddedDigits (width n : Nat) : List Nat :=
  List.replicate (width - (digits n).length) 0 ++ digits n

theorem padded_eq (width n : Nat) : padded width n = digitChars (paddedDigits width n) := by
  rw [padded, toList_repr, paddedDigits, digitChars, digitChars, List.map_append, List.map_replicate,
    List.length_map]
  rfl

theorem paddedDigits_lt (width n : Nat) : ∀ d ∈ paddedDigits width n, d < 10 := by
  intro d member
  rcases List.mem_append.mp member with zero | digit
  · rw [List.eq_of_mem_replicate zero]
    decide
  · exact digits_lt n d digit

theorem tally_paddedDigits (width n : Nat) : tally 0 (paddedDigits width n) = n := by
  rw [paddedDigits, tally_zeros, tally_digits]

theorem paddedDigits_ne_nil (width n : Nat) : paddedDigits width n ≠ [] := by
  obtain ⟨d, ds, shape, _⟩ := digits_eq_cons n
  simp [paddedDigits, shape]

theorem length_paddedDigits {width n : Nat} (positive : 0 < width)
    (small : n < Decimal.tenTo width) :
    (paddedDigits width n).length = width := by
  have fits := length_digits_le positive small
  rw [paddedDigits, List.length_append, List.length_replicate]
  omega

theorem takeNumber_padded {most : Option Nat} {width n : Nat} {rest : List Char}
    (fits : n < 9223372036854775808)
    (room : ∀ k, most = some k → (paddedDigits width n).length ≤ k) (stops : Stops rest) :
    takeNumber most (padded width n ++ rest) = .ok (n, rest) := by
  have taken := takeNumber_digitChars (paddedDigits_ne_nil width n) (paddedDigits_lt width n)
    (by rwa [tally_paddedDigits]) room stops
  rwa [tally_paddedDigits, ← padded_eq] at taken

theorem skipBlanks_padded (width n : Nat) (rest : List Char) :
    skipBlanks (padded width n ++ rest) = .ok ((), padded width n ++ rest) := by
  change Except.ok ((), trimStart _) = _
  cases shape : paddedDigits width n with
  | nil => exact absurd shape (paddedDigits_ne_nil width n)
  | cons d ds =>
    have solid := isBlank_digitChar d (paddedDigits_lt width n d (by rw [shape]; simp))
    rw [padded_eq, shape]
    change Except.ok ((), (Nat.digitChar d :: (digitChars ds ++ rest)).dropWhile isBlank) = _
    rw [List.dropWhile_cons_of_neg (by simpa using solid)]
    rfl

section

variable {rest : List Char}

theorem takeField_padded {low high n : Nat} (least : low ≤ n) (most : n ≤ high) (small : n < 100)
    (rest : List Char) (stops : Stops rest) : takeField low high (padded 2 n ++ rest) = .ok (n, rest) := by
  have taken : takeNumber (some 2) (padded 2 n ++ rest) = .ok (n, rest) := by
    refine takeNumber_padded (by omega) (fun k same => ?_) stops
    cases same
    exact Nat.le_of_eq (length_paddedDigits (by decide) small)
  rw [takeField, bind_taken (skipBlanks_padded 2 n rest), bind_taken taken, if_pos ⟨least, most⟩]
  rfl

theorem takeSeparator_mark {mark : Char} (solid : isBlank mark = false) :
    takeSeparator mark (mark :: rest) = .ok ((), rest) := by
  have kept : skipBlanks (mark :: rest) = .ok ((), mark :: rest) := by
    change Except.ok ((), (mark :: rest).dropWhile isBlank) = _
    rw [List.dropWhile_cons_of_neg (by simpa using solid)]
  rw [takeSeparator, bind_taken kept]
  change (if mark = mark then _ else _ : Taking Unit) (mark :: rest) = _
  rw [if_pos rfl]
  rfl

theorem takeYear_unsigned {cs left : List Char} {n : Nat} (minus : ∀ cs', cs ≠ '-' :: cs')
    (plus : ∀ cs', cs ≠ '+' :: cs') (kept : skipBlanks cs = .ok ((), cs))
    (taken : takeNumber (some 4) cs = .ok (n, left)) (small : n < 2147483648) :
    takeYear cs = .ok ((n : Int), left) := by
  have range : -2147483648 ≤ (n : Int) ∧ (n : Int) < 2147483648 := by omega
  rw [takeYear, bind_taken kept, bind_taken (get_taken cs)]
  dsimp only
  split
  · exact absurd rfl (minus _)
  · exact absurd rfl (plus _)
  · rw [bind_taken taken, bind_taken (pure_taken _ _), if_pos range, pure_taken]

theorem takeYear_signed {sign : Char} {cs left : List Char} {n : Nat} (signed : sign = '-' ∨ sign = '+')
    (taken : takeNumber none cs = .ok (n, left)) (small : n < 2147483648) :
    takeYear (sign :: cs) = .ok (if sign = '-' then -(n : Int) else n, left) := by
  have low : -2147483648 ≤ -(n : Int) ∧ -(n : Int) < 2147483648 := by omega
  have high : -2147483648 ≤ (n : Int) ∧ (n : Int) < 2147483648 := by omega
  have kept : skipBlanks (sign :: cs) = .ok ((), sign :: cs) := by
    rcases signed with rfl | rfl <;> rfl
  generalize same : sign :: cs = whole at kept ⊢
  rw [takeYear, bind_taken kept, bind_taken (get_taken whole)]
  dsimp only
  split
  · cases same
    rw [bind_taken (set_taken _ _), bind_taken taken, bind_taken (pure_taken _ _), if_pos low, pure_taken]
    rfl
  · cases same
    rw [bind_taken (set_taken _ _), bind_taken taken, bind_taken (pure_taken _ _), if_pos high, pure_taken]
    rfl
  · rename_i minus plus
    rcases signed with rfl | rfl
    · exact absurd same.symm (minus cs)
    · exact absurd same.symm (plus cs)

theorem padded_ne_cons {sign : Char} (width n : Nat) (signed : sign = '-' ∨ sign = '+') (cs : List Char) :
    padded width n ++ rest ≠ sign :: cs := by
  intro same
  cases shape : paddedDigits width n with
  | nil => exact paddedDigits_ne_nil width n shape
  | cons d ds =>
    obtain ⟨plus, minus⟩ := digitChar_ne_sign d (paddedDigits_lt width n d (by rw [shape]; simp))
    rw [padded_eq, shape] at same
    have first : Nat.digitChar d = sign := (List.cons.inj same).1
    rcases signed with rfl | rfl
    · exact minus first
    · exact plus first

theorem takeYear_yearText {year : Int} (within : Date.inRange year = true) (rest : List Char)
    (stops : Stops rest) :
    takeYear (yearText year ++ rest) = .ok (year, rest) := by
  have bounds : -262143 ≤ year ∧ year ≤ 262142 := by simpa [Date.inRange] using within
  unfold yearText
  by_cases four : 0 ≤ year ∧ year ≤ 9999
  · have small : year.natAbs < 10000 := by omega
    have length : (paddedDigits 4 year.natAbs).length = 4 := length_paddedDigits (by decide) small
    have taken : takeNumber (some 4) (padded 4 year.natAbs ++ rest) = .ok (year.natAbs, rest) := by
      refine takeNumber_padded (by omega) (fun k same => ?_) stops
      cases same
      exact Nat.le_of_eq length
    have read := takeYear_unsigned (padded_ne_cons 4 _ (.inl rfl)) (padded_ne_cons 4 _ (.inr rfl))
      (skipBlanks_padded 4 _ rest) taken (by omega)
    have same : (year.natAbs : Int) = year := by omega
    rw [if_pos four, read, same]
  · have taken : takeNumber none (padded 4 year.natAbs ++ rest) = .ok (year.natAbs, rest) :=
      takeNumber_padded (by omega) nofun stops
    rw [if_neg four]
    by_cases negative : year < 0
    · have read := takeYear_signed (.inl rfl) taken (by omega)
      have same : -(year.natAbs : Int) = year := by omega
      rw [if_pos negative, List.cons_append, read, if_pos rfl, same]
    · have read := takeYear_signed (.inr rfl) taken (by omega)
      have same : (year.natAbs : Int) = year := by omega
      rw [if_neg negative, List.cons_append, read, if_neg (by decide), same]

theorem takeDate_text {date : Date} (valid : date.isValid = true) (rest : List Char)
    (stops : Stops rest) :
    takeDate (yearText date.year ++ '-' :: (padded 2 date.month ++ '-' :: (padded 2 date.day ++ rest))) =
      .ok (date, rest) := by
  simp only [Date.isValid, Bool.and_eq_true, decide_eq_true_eq] at valid
  obtain ⟨⟨⟨⟨within, january⟩, december⟩, first⟩, last⟩ := valid
  have longest : date.day ≤ 31 := by
    refine Nat.le_trans last ?_
    unfold daysIn
    split
    · split <;> decide
    · decide
    · decide
    · decide
    · decide
    · decide
  have year := takeYear_yearText within
    ('-' :: (padded 2 date.month ++ '-' :: (padded 2 date.day ++ rest))) rfl
  have month := takeField_padded january december (by omega) ('-' :: (padded 2 date.day ++ rest)) rfl
  have day := takeField_padded first longest (by omega) rest stops
  rw [takeDate, bind_taken year, bind_taken (takeSeparator_mark rfl), bind_taken month,
    bind_taken (takeSeparator_mark rfl), bind_taken day]
  rfl

theorem takeFraction_digits {width n nano : Nat} (left : Nat) (positive : 0 < width)
    (digits : width + left = 9) (small : n < Decimal.tenTo width)
    (scaled : n * Decimal.tenTo left = nano) (bounded : nano < 1000000000) (stops : Stops rest) :
    takeFraction ('.' :: (padded width n ++ rest)) = .ok (nano, rest) := by
  have length := length_paddedDigits positive small
  have least := Nat.le_mul_of_pos_right n (Decimal.tenTo_pos left)
  have taken : takeNumber (some 9) (padded width n ++ rest) = .ok (n, rest) := by
    refine takeNumber_padded (by omega) (fun k same => ?_) stops
    cases same
    omega
  have count : (padded width n ++ rest).length - rest.length = width := by
    rw [padded_eq, digitChars, List.length_append, List.length_map]
    omega
  have ends : rest.dropWhile isDigit = rest := by
    cases rest with
    | nil => rfl
    | cons c cs => exact List.dropWhile_cons_of_neg (by simpa [Stops] using stops)
  have missing : 9 - width = left := by omega
  rw [takeFraction_point, taken]
  change Except.ok (n * Decimal.tenTo (9 - ((padded width n ++ rest).length - rest.length)), _) = _
  rw [count, ends, missing, scaled]

theorem takeFraction_fractionText {nano : Nat} (small : nano < 1000000000) (rest : List Char)
    (stops : Stops rest) (point : ∀ cs, rest ≠ '.' :: cs) :
    takeFraction (fractionText nano ++ rest) = .ok (nano, rest) := by
  unfold fractionText
  split
  · rename_i zero
    rw [zero]
    exact takeFraction_none point
  · have thousand : Decimal.tenTo 3 = 1000 := rfl
    have million : Decimal.tenTo 6 = 1000000 := rfl
    split
    · have scaled : nano / 1000000 * Decimal.tenTo 6 = nano := by
        rw [million]
        omega
      exact takeFraction_digits 6 (by decide) rfl (by omega) scaled small stops
    · split
      · have scaled : nano / 1000 * Decimal.tenTo 3 = nano := by
          rw [thousand]
          omega
        exact takeFraction_digits 3 (by decide) rfl (by omega) scaled small stops
      · exact takeFraction_digits 0 (by decide) rfl small (Nat.mul_one nano) small stops

theorem takeTime_text {hour minute second nano : Nat} (hours : hour ≤ 23) (minutes : minute ≤ 59)
    (seconds : second ≤ 60) (small : nano < 1000000000) :
    takeTime (padded 2 hour ++ ':' :: (padded 2 minute ++ ':' :: (padded 2 second ++
      (fractionText nano ++ ['Z'])))) =
      .ok (if second = 60 then (hour * 3600 + minute * 60 + 59, nano + 1000000000)
        else (hour * 3600 + minute * 60 + second, nano), ['Z']) := by
  have stops : Stops (fractionText nano ++ ['Z']) := by
    unfold fractionText
    repeat' split
    all_goals rfl
  have hourTaken := takeField_padded (Nat.zero_le hour) hours (by omega)
    (':' :: (padded 2 minute ++ ':' :: (padded 2 second ++ (fractionText nano ++ ['Z'])))) rfl
  have minuteTaken := takeField_padded (Nat.zero_le minute) minutes (by omega)
    (':' :: (padded 2 second ++ (fractionText nano ++ ['Z']))) rfl
  have secondTaken := takeField_padded (Nat.zero_le second) seconds (by omega) _ stops
  have fractionTaken := takeFraction_fractionText small ['Z'] rfl (by simp)
  have kept : skipBlanks ['Z'] = .ok ((), ['Z']) := rfl
  rw [takeTime, bind_taken hourTaken, bind_taken (takeSeparator_mark rfl), bind_taken minuteTaken,
    bind_taken (takeSeparator_mark rfl), bind_taken secondTaken, bind_taken fractionTaken,
    bind_taken kept]
  split <;> rfl

end

theorem takeInstant_text {date : Date} {cs : List Char} {seconds nano : Nat}
    (valid : date.isValid = true) (time : takeTime cs = .ok ((seconds, nano), ['Z']))
    (within : Date.inRange (Date.ofDays ((date.toDays * 86400 + seconds) / 86400)).year = true) :
    takeInstant (yearText date.year ++ '-' :: (padded 2 date.month ++ '-' :: (padded 2 date.day ++
      'T' :: cs))) = .ok (⟨date.toDays * 86400 + seconds, nano⟩, []) := by
  have dateTaken := takeDate_text valid ('T' :: cs) rfl
  have markTaken : takeDateMark ('T' :: cs) = .ok ((), cs) := rfl
  have offsetTaken : takeOffset ['Z'] = .ok (0, []) := rfl
  have kept : skipBlanks [] = .ok ((), []) := rfl
  rw [takeInstant, bind_taken dateTaken, bind_taken markTaken, bind_taken time]
  dsimp only
  rw [bind_taken offsetTaken, bind_taken kept, bind_taken (get_taken []), if_neg (by decide),
    if_neg (by simp [valid]), if_neg (by decide), Int.sub_zero, if_pos within]
  rfl

namespace Instant

variable {t : Instant}

/-- The time of day comes back, with the second that a leap second adds. -/
theorem takeTime_proper (proper : t.Proper) :
    let ofDay := (t.second % 86400).toNat
    let leap := 1000000000 ≤ t.nano
    takeTime (padded 2 (ofDay / 3600) ++ ':' :: (padded 2 (ofDay / 60 % 60) ++ ':' ::
      (padded 2 (ofDay % 60 + if leap then 1 else 0) ++
        (fractionText (if leap then t.nano - 1000000000 else t.nano) ++ ['Z'])))) =
      .ok ((ofDay, t.nano), ['Z']) := by
  intro ofDay leap
  have whole : t.second % 86400 < 86400 := by omega
  have bounded := proper.bounded
  have hours : ofDay / 3600 ≤ 23 := by omega
  have minutes : ofDay / 60 % 60 ≤ 59 := by omega
  by_cases late : leap
  · have last : ofDay % 60 = 59 := by
      have ends := proper.leap late
      omega
    have small : t.nano - 1000000000 < 1000000000 := by omega
    rw [if_pos late, if_pos late, takeTime_text hours minutes (by omega) small, if_pos (by omega)]
    congr 3 <;> omega
  · rw [if_neg late, if_neg late, takeTime_text hours minutes (by omega) (Nat.not_le.mp late),
      if_neg (by omega)]
    congr 3
    omega

theorem read_text (proper : t.Proper) : Instant.read t.text = .ok t := by
  have valid := Date.isValid_ofDays proper.within
  have low : 0 ≤ t.second % 86400 := by omega
  have same : (Date.ofDays (t.second / 86400)).toDays * 86400 + (t.second % 86400).toNat = t.second := by
    rw [Date.toDays_ofDays]
    omega
  have taken := takeInstant_text valid (takeTime_proper proper) (by rw [same]; exact proper.within)
  rw [same] at taken
  have chars : t.text.toList = yearText (Date.ofDays (t.second / 86400)).year ++ '-' ::
      (padded 2 (Date.ofDays (t.second / 86400)).month ++ '-' ::
      (padded 2 (Date.ofDays (t.second / 86400)).day ++ 'T' ::
      (padded 2 ((t.second % 86400).toNat / 3600) ++ ':' ::
      (padded 2 ((t.second % 86400).toNat / 60 % 60) ++ ':' ::
      (padded 2 ((t.second % 86400).toNat % 60 + if 1000000000 ≤ t.nano then 1 else 0) ++
      (fractionText (if 1000000000 ≤ t.nano then t.nano - 1000000000 else t.nano) ++ ['Z'])))))) := by
    rw [text, String.toList_ofList]
    simp only [List.append_assoc, List.cons_append]
  change (takeInstant t.text.toList).map (·.1) = .ok t
  rw [chars, taken]
  rfl

end Instant

end TezosNode.Time
