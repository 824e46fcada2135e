import TezosNode.Time.Instant

namespace TezosNode.Time

def yearOfEra (day : Int) : Int := (day - day / 1460 + day / 36524 - day / 146096) / 365

def daysBefore (year : Int) : Int := year * 365 + year / 4 - year / 100

/-- A day of an era by its century, its four years there, its year of these and the days left. Only the
last year of four has one day more, unless the century ends with it and the era goes on. -/
theorem eq_centuries {day : Int} (low : 0 ≤ day) (high : day < 146097) :
    ∃ century fours year left : Int, (0 ≤ century ∧ century ≤ 3) ∧ (0 ≤ fours ∧ fours ≤ 24) ∧
      (0 ≤ year ∧ year ≤ 3) ∧ 0 ≤ left ∧ left ≤ 365 ∧
      (left = 365 → year = 3 ∧ (fours = 24 → century = 3)) ∧
      day = 36524 * century + 1461 * fours + 365 * year + left := by
  have centuries : ∃ century rest : Int, (0 ≤ century ∧ century ≤ 3) ∧ (0 ≤ rest ∧ rest ≤ 36524) ∧
      (rest = 36524 → century = 3) ∧ day = 36524 * century + rest := by
    by_cases last : day = 146096
    · exact ⟨3, 36524, by omega⟩
    · exact ⟨day / 36524, day % 36524, by omega⟩
  obtain ⟨century, rest, bounds, _, _, rfl⟩ := centuries
  have cycles : ∃ fours rest' : Int, (0 ≤ fours ∧ fours ≤ 24) ∧ (0 ≤ rest' ∧ rest' ≤ 1460) ∧
      (rest' = 1460 → fours = 24 → century = 3) ∧ rest = 1461 * fours + rest' :=
    ⟨rest / 1461, rest % 1461, by omega⟩
  obtain ⟨fours, rest', _, _, _, rfl⟩ := cycles
  by_cases last : rest' = 1460
  · exact ⟨century, fours, 3, 365, by omega⟩
  · exact ⟨century, fours, rest' / 365, rest' % 365, by omega⟩

theorem yearOfEra_centuries {century fours year left : Int} (centuries : 0 ≤ century ∧ century ≤ 3)
    (cycles : 0 ≤ fours ∧ fours ≤ 24) (years : 0 ≤ year ∧ year ≤ 3) (low : 0 ≤ left)
    (high : left ≤ 365) (leap : left = 365 → year = 3 ∧ (fours = 24 → century = 3)) :
    yearOfEra (36524 * century + 1461 * fours + 365 * year + left) =
      100 * century + 4 * fours + year := by
  unfold yearOfEra
  generalize same : 36524 * century + 1461 * fours + 365 * year + left = day
  have cycle : day / 1460 =
      25 * century + fours + (24 * century + fours + 365 * year + left) / 1460 := by
    omega
  have hundreds : day / 36524 - day / 146096 = century := by
    by_cases last : day = 146096
    · omega
    · have before : day < 36524 * (century + 1) := by omega
      omega
  have least : 0 ≤ left - (24 * century + fours + 365 * year + left) / 1460 := by omega
  have most : left - (24 * century + fours + 365 * year + left) / 1460 ≤ 364 := by omega
  omega

theorem isLeap_eq (year : Int) :
    isLeap year = true ↔ year % 4 = 0 ∧ (year % 100 ≠ 0 ∨ year % 400 = 0) := by
  simp [isLeap]

/-- A year of an era has 365 days, or one more before the end of a leap year's February. -/
theorem yearOfEra_spec {day : Int} (low : 0 ≤ day) (high : day < 146097) :
    0 ≤ yearOfEra day ∧ yearOfEra day < 400 ∧ ∃ dayOfYear, 0 ≤ dayOfYear ∧ dayOfYear ≤ 365 ∧
      day = daysBefore (yearOfEra day) + dayOfYear ∧
      (dayOfYear = 365 → ∀ era, isLeap (yearOfEra day + era * 400 + 1) = true) := by
  obtain ⟨century, fours, year, left, centuries, cycles, years, least, most, leap, rfl⟩ :=
    eq_centuries low high
  rw [yearOfEra_centuries centuries cycles years least most leap]
  have quarter : (100 * century + 4 * fours + year) / 4 = 25 * century + fours := by omega
  have hundredth : (100 * century + 4 * fours + year) / 100 = century := by omega
  refine ⟨by omega, by omega, left, least, most, ?_, fun last era => ?_⟩
  · rw [daysBefore, quarter, hundredth]
    omega
  · rw [isLeap_eq]
    obtain ⟨rfl, ends⟩ := leap last
    omega

namespace Date

theorem ofDays_eq {days era day yearOfEra' dayOfYear : Int} (low : 0 ≤ day) (high : day < 146097)
    (same : days = era * 146097 + day - 719468) (year : yearOfEra day = yearOfEra')
    (found : day = daysBefore yearOfEra' + dayOfYear) :
    ofDays days =
      let month := (5 * dayOfYear + 2) / 153
      let month' := if month < 10 then month + 3 else month - 9
      ⟨yearOfEra' + era * 400 + (if month' ≤ 2 then 1 else 0), month'.toNat,
        (dayOfYear - (153 * month + 2) / 5 + 1).toNat⟩ := by
  have eras : (days + 719468) / 146097 = era := by omega
  have left : (days + 719468) % 146097 = day := by omega
  have rest : day - (365 * yearOfEra' + yearOfEra' / 4 - yearOfEra' / 100) = dayOfYear := by
    rw [daysBefore] at found
    omega
  unfold yearOfEra at year
  simp only [ofDays, eras, left, year, rest]

/-- Each day has one date: its era, year of the era and day of the year. -/
theorem ofDays_spec (days : Int) : ∃ era year day : Int, 0 ≤ year ∧ year < 400 ∧ 0 ≤ day ∧ day ≤ 365 ∧
    days = era * 146097 + (daysBefore year + day) - 719468 ∧
    (day = 365 → isLeap (year + era * 400 + 1) = true) ∧
    ofDays days =
      let month := (5 * day + 2) / 153
      let month' := if month < 10 then month + 3 else month - 9
      ⟨year + era * 400 + (if month' ≤ 2 then 1 else 0), month'.toNat,
        (day - (153 * month + 2) / 5 + 1).toNat⟩ := by
  have low : 0 ≤ (days + 719468) % 146097 := by omega
  have high : (days + 719468) % 146097 < 146097 := by omega
  have same : days = (days + 719468) / 146097 * 146097 + (days + 719468) % 146097 - 719468 := by omega
  obtain ⟨least, most, day, first, last, found, leap⟩ := yearOfEra_spec low high
  refine ⟨_, _, day, least, most, first, last, ?_, fun ends => leap ends _,
    ofDays_eq low high same rfl found⟩
  rw [← found]
  exact same

theorem toDays_ofDays (days : Int) : (ofDays days).toDays = days := by
  obtain ⟨era, year, day, least, most, first, last, same, _, found⟩ := ofDays_spec days
  have months : 0 ≤ (5 * day + 2) / 153 ∧ (5 * day + 2) / 153 ≤ 11 := by omega
  have start : (153 * ((5 * day + 2) / 153) + 2) / 5 ≤ day := by omega
  unfold daysBefore at same
  rw [found]
  generalize (5 * day + 2) / 153 = month at *
  unfold toDays
  by_cases early : month < 10
  · have after : ¬month + 3 ≤ 2 := by omega
    have spring : ¬(month + 3).toNat ≤ 2 := by omega
    have third : 2 < (month + 3).toNat := by omega
    simp only [if_pos early, if_neg after, if_neg spring, if_pos third]
    omega
  · have before : month - 9 ≤ 2 := by omega
    have winter : (month - 9).toNat ≤ 2 := by omega
    have third : ¬2 < (month - 9).toNat := by omega
    simp only [if_neg early, if_pos before, if_pos winter, if_neg third]
    omega

theorem isValid_ofDays {days : Int} (within : inRange (ofDays days).year = true) :
    (ofDays days).isValid = true := by
  obtain ⟨era, year, day, _, _, first, last, _, leap, found⟩ := ofDays_spec days
  have months : 0 ≤ (5 * day + 2) / 153 ∧ (5 * day + 2) / 153 ≤ 11 := by omega
  rw [isValid, within]
  rw [found]
  simp only [Bool.true_and, Bool.and_eq_true, decide_eq_true_eq]
  by_cases february : (5 * day + 2) / 153 = 11
  · rw [february]
    change ((_ ∧ _) ∧ 1 ≤ (day - 337 + 1).toNat) ∧
      (day - 337 + 1).toNat ≤ if isLeap (year + era * 400 + 1) then 29 else 28
    by_cases longest : day = 365
    · rw [if_pos (leap longest)]
      omega
    · cases isLeap (year + era * 400 + 1) <;> simp <;> omega
  · have others : (5 * day + 2) / 153 = 0 ∨ (5 * day + 2) / 153 = 1 ∨ (5 * day + 2) / 153 = 2 ∨
        (5 * day + 2) / 153 = 3 ∨ (5 * day + 2) / 153 = 4 ∨ (5 * day + 2) / 153 = 5 ∨
        (5 * day + 2) / 153 = 6 ∨ (5 * day + 2) / 153 = 7 ∨ (5 * day + 2) / 153 = 8 ∨
        (5 * day + 2) / 153 = 9 ∨ (5 * day + 2) / 153 = 10 := by
      omega
    rcases others with month | month | month | month | month | month | month | month | month | month |
      month
    all_goals
      rw [month]
      simp [daysIn]
      omega

end Date

end TezosNode.Time
