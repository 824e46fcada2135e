import TezosNode.Proofs.Outcome
import TezosNode.Proofs.Text.Digits
import TezosNode.Proofs.Text.Encoding

namespace TezosNode.Text

def IsDigit (c : Char) : Prop := '0' ≤ c ∧ c ≤ '9'

instance (c : Char) : Decidable (IsDigit c) := inferInstanceAs (Decidable (_ ∧ _))

def Numeral (cs : List Char) : Prop := cs ≠ [] ∧ ∀ c ∈ cs, IsDigit c

instance (cs : List Char) : Decidable (Numeral cs) :=
  @instDecidableAnd _ _ _ (List.decidableBAll IsDigit cs)

def digitOf (c : Char) : Nat := c.toNat - '0'.toNat

theorem isDigit_digitChar : ∀ d < 10, IsDigit (Nat.digitChar d) := by decide

theorem digitOf_digitChar : ∀ d < 10, digitOf (Nat.digitChar d) = d := by decide

theorem digitOf_lt {c : Char} (digit : IsDigit c) : digitOf c < 10 := by
  have most : c.toNat ≤ 57 := digit.2
  change c.toNat - 48 < 10
  omega

theorem digitChar_digitOf {c : Char} (digit : IsDigit c) : Nat.digitChar (digitOf c) = c := by
  have small : c.toNat < 58 := Nat.lt_succ_of_le digit.2
  have back : ∀ c : Char, c.toNat < 58 → IsDigit c → Nat.digitChar (digitOf c) = c :=
    of_code_below (by decide)
  exact back c small digit

theorem readDigits_ok_iff {limit count n : Nat} {fault : IntegerFault} {cs : List Char} (fits : count ≤ limit) :
    readDigits limit fault count cs = .ok n ↔
      (∀ c ∈ cs, IsDigit c) ∧ n = tally count (cs.map digitOf) ∧ n ≤ limit := by
  induction cs generalizing count with
  | nil =>
    rw [readDigits, Except.ok.injEq]
    constructor
    · rintro rfl
      exact ⟨nofun, rfl, fits⟩
    · rintro ⟨_, same, _⟩
      exact same.symm
  | cons c cs ih =>
    rw [readDigits, List.forall_mem_cons, List.map_cons, tally_cons]
    by_cases digit : IsDigit c
    · have counts : digit? c = some (digitOf c) := if_pos digit
      rw [counts]
      by_cases more : count * 10 + digitOf c ≤ limit
      · simp only [if_pos more, ih more, digit, true_and]
      · -- What is over the limit stays over it, whatever digits follow.
        have least := le_tally (count * 10 + digitOf c) (cs.map digitOf)
        simp only [if_neg more]
        constructor
        · exact nofun
        · rintro ⟨_, same, less⟩
          omega
    · have other : digit? c = none := if_neg digit
      rw [other]
      exact ⟨nofun, fun ⟨⟨first, _⟩, _⟩ => absurd first digit⟩

/-- The text writes the integer: digits, and one sign in front at most. -/
inductive Writes : List Char → Int → Prop where
  | unsigned {ds} : Numeral ds → Writes ds (numberOf ds)
  | plus {ds} : Numeral ds → Writes ('+' :: ds) (numberOf ds)
  | minus {ds} : Numeral ds → Writes ('-' :: ds) (-(numberOf ds : Int))

theorem Numeral.head {ds : List Char} (numeral : Numeral ds) : ∃ c cs, ds = c :: cs ∧ IsDigit c := by
  obtain ⟨some, all⟩ := numeral
  cases ds with
  | nil => exact absurd rfl some
  | cons c cs => exact ⟨c, cs, rfl, all c (by simp)⟩

theorem sign_not_digit : ¬ IsDigit '+' ∧ ¬ IsDigit '-' := by decide

theorem readDigits_map_ok_iff {limit : Nat} {fault : IntegerFault} {ds : List Char} {sign : Nat → Int}
    {n : Int} :
    (readDigits limit fault 0 ds).map sign = .ok n ↔
      (∀ c ∈ ds, IsDigit c) ∧ n = sign (numberOf ds) ∧ numberOf ds ≤ limit := by
  have counts (k : Nat) : readDigits limit fault 0 ds = .ok k ↔
      (∀ c ∈ ds, IsDigit c) ∧ k = numberOf ds ∧ k ≤ limit := readDigits_ok_iff (Nat.zero_le limit)
  constructor
  · intro read
    obtain ⟨k, known, rfl⟩ := map_ok read
    obtain ⟨all, rfl, less⟩ := (counts k).mp known
    exact ⟨all, rfl, less⟩
  · rintro ⟨all, rfl, less⟩
    rw [(counts _).mpr ⟨all, rfl, less⟩]
    rfl

theorem readInteger_unsigned (below above : Nat) {c : Char} (cs : List Char) (digit : IsDigit c) :
    readInteger below above (c :: cs) = (readDigits above .tooLarge 0 (c :: cs)).map Int.ofNat := by
  have plus : c ≠ '+' := by
    rintro rfl
    exact sign_not_digit.1 digit
  have minus : c ≠ '-' := by
    rintro rfl
    exact sign_not_digit.2 digit
  rw [readInteger.eq_def]
  split <;> simp_all

theorem Writes.eq_integerOf {cs : List Char} {n : Int} (writes : Writes cs n) : n = integerOf cs := by
  cases writes with
  | unsigned numeral =>
    obtain ⟨c, cs, rfl, digit⟩ := numeral.head
    rw [integerOf.eq_def]
    split
    · next same => cases same; exact absurd digit sign_not_digit.2
    · next same => cases same; exact absurd digit sign_not_digit.1
    · rfl
  | plus _ | minus _ => rfl

theorem readInteger_ok_iff {below above : Nat} {cs : List Char} {n : Int} :
    readInteger below above cs = .ok n ↔ Writes cs n ∧ -below ≤ n ∧ n ≤ above := by
  have nonnegative (k below : Nat) : -(below : Int) ≤ (k : Int) := by omega
  have nonpositive (k above : Nat) : -(k : Int) ≤ above := by omega
  constructor
  · intro read
    rw [readInteger.eq_def] at read
    split at read
    · cases read
    · cases read
    · cases read
    · next digits bare =>
      obtain ⟨all, rfl, less⟩ := readDigits_map_ok_iff.mp read
      exact ⟨.plus ⟨bare, all⟩, nonnegative _ _, Int.ofNat_le.mpr less⟩
    · next digits bare =>
      obtain ⟨all, rfl, less⟩ := readDigits_map_ok_iff.mp read
      exact ⟨.minus ⟨bare, all⟩, Int.neg_le_neg (Int.ofNat_le.mpr less), nonpositive _ _⟩
    · next some _ _ _ _ =>
      obtain ⟨all, rfl, less⟩ := readDigits_map_ok_iff.mp read
      exact ⟨.unsigned ⟨some, all⟩, nonnegative _ _, Int.ofNat_le.mpr less⟩
  · rintro ⟨writes, low, high⟩
    cases writes with
    | unsigned numeral =>
      obtain ⟨c, cs, rfl, digit⟩ := numeral.head
      rw [readInteger_unsigned below above cs digit]
      exact readDigits_map_ok_iff.mpr ⟨numeral.2, rfl, by omega⟩
    | plus numeral =>
      obtain ⟨c, cs, rfl, digit⟩ := numeral.head
      exact readDigits_map_ok_iff.mpr ⟨numeral.2, rfl, by omega⟩
    | minus numeral =>
      obtain ⟨c, cs, rfl, digit⟩ := numeral.head
      exact readDigits_map_ok_iff.mpr ⟨numeral.2, rfl, by omega⟩

/-- The text writes the integer between the blanks around it. -/
def WritesAmid (cs : List Char) (n : Int) : Prop :=
  ∃ before text after, cs = before ++ text ++ after ∧ (∀ c ∈ before, isBlank c = true) ∧
    (∀ c ∈ after, isBlank c = true) ∧ Writes text n

theorem trimStart_blank {before : List Char} (blank : ∀ c ∈ before, isBlank c = true) (cs : List Char) :
    trimStart (before ++ cs) = trimStart cs := List.dropWhile_append_of_pos blank

theorem trimStart_solid {cs : List Char} (solid : ∀ c ∈ cs.head?, isBlank c = false) : trimStart cs = cs := by
  cases cs with
  | nil => rfl
  | cons c cs => exact List.dropWhile_cons_of_neg (by simp [solid c rfl])

theorem trim_amid {before text after : List Char} (blank : ∀ c ∈ before, isBlank c = true)
    (blanks : ∀ c ∈ after, isBlank c = true) (some : text ≠ []) (solid : ∀ c ∈ text, isBlank c = false) :
    trim (before ++ text ++ after) = text := by
  have front : trimStart (before ++ text ++ after) = text ++ after := by
    rw [List.append_assoc, trimStart_blank blank, trimStart_solid]
    intro c first
    obtain ⟨d, cs, rfl⟩ := List.exists_cons_of_ne_nil some
    exact solid c (List.mem_of_mem_head? first)
  have back : trimStart (text ++ after).reverse = text.reverse := by
    rw [List.reverse_append, trimStart_blank (by simpa using blanks), trimStart_solid]
    intro c first
    exact solid c (List.mem_reverse.mp (List.mem_of_mem_head? first))
  rw [trim, front, back, List.reverse_reverse]

theorem exists_trim (cs : List Char) :
    ∃ before after, cs = before ++ trim cs ++ after ∧ (∀ c ∈ before, isBlank c = true) ∧
      ∀ c ∈ after, isBlank c = true := by
  have split (cs : List Char) : cs = cs.takeWhile isBlank ++ trimStart cs :=
    List.takeWhile_append_dropWhile.symm
  have blank (cs : List Char) : ∀ c ∈ cs.takeWhile isBlank, isBlank c = true :=
    fun c member => List.all_eq_true.mp List.all_takeWhile c member
  refine ⟨cs.takeWhile isBlank, ((trimStart cs).reverse.takeWhile isBlank).reverse, ?_, blank cs, ?_⟩
  · calc
      cs = cs.takeWhile isBlank ++ (trimStart cs).reverse.reverse := by
        rw [List.reverse_reverse]
        exact split cs
      _ = cs.takeWhile isBlank ++ (trim cs ++ ((trimStart cs).reverse.takeWhile isBlank).reverse) := by
        rw [trim, ← List.reverse_append, ← split]
      _ = _ := (List.append_assoc ..).symm
  · intro c member
    exact blank _ c (List.mem_reverse.mp member)

theorem isBlank_of_isDigit {c : Char} (digit : IsDigit c) : isBlank c = false := by
  rw [← digitChar_digitOf digit]
  exact isBlank_digitChar _ (digitOf_lt digit)

theorem Writes.solid {cs : List Char} {n : Int} (writes : Writes cs n) :
    cs ≠ [] ∧ ∀ c ∈ cs, isBlank c = false := by
  cases writes with
  | unsigned numeral => exact ⟨numeral.1, fun c member => isBlank_of_isDigit (numeral.2 c member)⟩
  | plus numeral | minus numeral =>
    refine ⟨List.cons_ne_nil _ _, fun c member => ?_⟩
    rcases List.mem_cons.mp member with rfl | digit
    · rfl
    · exact isBlank_of_isDigit (numeral.2 c digit)

theorem Writes.amid {cs : List Char} {n : Int} (writes : Writes cs n) : WritesAmid cs n :=
  ⟨[], cs, [], (List.append_nil cs).symm, nofun, nofun, writes⟩

theorem writes_trim_iff {cs : List Char} {n : Int} : Writes (trim cs) n ↔ WritesAmid cs n := by
  constructor
  · intro writes
    obtain ⟨before, after, same, blank, blanks⟩ := exists_trim cs
    exact ⟨before, trim cs, after, same, blank, blanks, writes⟩
  · rintro ⟨before, text, after, rfl, blank, blanks, writes⟩
    obtain ⟨some, solid⟩ := writes.solid
    rwa [trim_amid blank blanks some solid]

theorem WritesAmid.unique {cs : List Char} {m n : Int} (writes : WritesAmid cs m) (also : WritesAmid cs n) :
    m = n := by
  rw [(writes_trim_iff.mpr writes).eq_integerOf, (writes_trim_iff.mpr also).eq_integerOf]

/-- The one text of an integer that has no zero to spare, no plus and no negative zero. -/
inductive Canonical : List Char → Int → Prop where
  | natural {ds} : Numeral ds → (ds.head? = some '0' → ds = ['0']) → Canonical ds (numberOf ds)
  | negative {ds} : Numeral ds → ds.head? ≠ some '0' → Canonical ('-' :: ds) (-(numberOf ds : Int))

theorem Canonical.writes {cs : List Char} {n : Int} (canonical : Canonical cs n) : Writes cs n := by
  cases canonical with
  | natural numeral _ => exact .unsigned numeral
  | negative numeral _ => exact .minus numeral

theorem digits_of_lt {n : Nat} (small : n < 10) : digits n = [n] := by
  rw [digits, if_pos small]

theorem digitChars_zero : digitChars (digits 0) = ['0'] := by
  rw [digits_of_lt (by decide)]
  rfl

theorem digits_tally_of_pos {n : Nat} {ds : List Nat} (positive : 0 < n) (small : ∀ d ∈ ds, d < 10) :
    digits (tally n ds) = digits n ++ ds := by
  induction ds generalizing n with
  | nil => exact (List.append_nil _).symm
  | cons d ds ih =>
    obtain ⟨digit, others⟩ := List.forall_mem_cons.mp small
    have larger : ¬ n * 10 + d < 10 := by omega
    have last : (n * 10 + d) % 10 = d := by omega
    have front : (n * 10 + d) / 10 = n := by omega
    rw [tally_cons, ih (by omega) others, digits, if_neg larger, last, front, List.append_assoc]
    rfl

theorem digitChars_digitOf {ds : List Char} (all : ∀ c ∈ ds, IsDigit c) : digitChars (ds.map digitOf) = ds := by
  rw [digitChars, List.map_map]
  exact (List.map_congr_left fun c member => digitChar_digitOf (all c member)).trans (List.map_id ds)

theorem digitChars_digits_numberOf {ds : List Char} (numeral : Numeral ds)
    (leads : ds.head? = some '0' → ds = ['0']) : digitChars (digits (numberOf ds)) = ds := by
  obtain ⟨c, cs, rfl, digit⟩ := numeral.head
  by_cases zero : c = '0'
  · subst zero
    rw [leads rfl]
    exact digitChars_zero
  · obtain ⟨small, others⟩ : digitOf c < 10 ∧ ∀ d ∈ cs.map digitOf, d < 10 := by
      refine ⟨digitOf_lt digit, ?_⟩
      intro d member
      obtain ⟨e, present, rfl⟩ := List.mem_map.mp member
      exact digitOf_lt (numeral.2 e (by simp [present]))
    have positive : 0 < digitOf c := by
      refine Nat.pos_of_ne_zero fun nothing => zero ?_
      rw [← digitChar_digitOf digit, nothing]
      rfl
    calc
      digitChars (digits (numberOf (c :: cs))) =
          digitChars (digits (tally (digitOf c) (cs.map digitOf))) := by
        rw [numberOf, List.map_cons, tally_cons, Nat.zero_mul, Nat.zero_add]
        rfl
      _ = digitChars ((c :: cs).map digitOf) := by
        rw [digits_tally_of_pos positive others, digits_of_lt small]
        rfl
      _ = c :: cs := digitChars_digitOf numeral.2

theorem numeral_digits (n : Nat) : Numeral (digitChars (digits n)) := by
  obtain ⟨d, ds, shape, _⟩ := digits_eq_cons n
  refine ⟨by rw [shape]; exact List.cons_ne_nil _ _, fun c member => ?_⟩
  obtain ⟨d, present, rfl⟩ := List.mem_map.mp member
  exact isDigit_digitChar d (digits_lt n d present)

theorem numberOf_digits (n : Nat) : numberOf (digitChars (digits n)) = n := by
  have back : (digitChars (digits n)).map digitOf = digits n := by
    rw [digitChars, List.map_map]
    have same := List.map_congr_left fun d member => digitOf_digitChar d (digits_lt n d member)
    exact same.trans (List.map_id _)
  calc
    numberOf (digitChars (digits n)) = tally 0 ((digitChars (digits n)).map digitOf) := rfl
    _ = n := by rw [back, tally_digits]

theorem head_digits {n : Nat} (zero : (digitChars (digits n)).head? = some '0') : n = 0 := by
  obtain ⟨d, ds, shape, leads⟩ := digits_eq_cons n
  have only : ∀ d < 10, Nat.digitChar d = '0' → d = 0 := by decide
  rw [shape] at zero
  exact (leads (only d (digits_lt n d (by simp [shape])) (Option.some.inj zero))).1

/-- The canonical text of an integer is how it is printed, and there is no other. -/
theorem canonical_iff {cs : List Char} {n : Int} : Canonical cs n ↔ cs = (toString n).toList := by
  constructor
  · intro canonical
    cases canonical with
    | natural numeral leads => rw [toString_natCast, digitChars_digits_numberOf numeral leads]
    | @negative ds numeral leads =>
      have same := digitChars_digits_numberOf numeral fun zero => absurd zero leads
      have positive : numberOf ds ≠ 0 := by
        intro nothing
        rw [nothing, digitChars_zero] at same
        subst same
        exact leads rfl
      rw [toString_negative (by omega), Int.natAbs_neg, Int.natAbs_natCast, same]
  · rintro rfl
    by_cases negative : n < 0
    · have written : Canonical ('-' :: digitChars (digits n.natAbs)) (-(numberOf (digitChars (digits n.natAbs)) : Int)) :=
        .negative (numeral_digits _) fun zero => by
          have nothing := head_digits zero
          omega
      rw [numberOf_digits] at written
      rw [toString_negative negative]
      rwa [show -(n.natAbs : Int) = n by omega] at written
    · obtain ⟨k, rfl⟩ := Int.eq_ofNat_of_zero_le (Int.not_lt.mp negative)
      have written : Canonical (digitChars (digits k)) (numberOf (digitChars (digits k))) :=
        .natural (numeral_digits k) fun zero => by
          rw [head_digits zero]
          exact digitChars_zero
      rw [numberOf_digits] at written
      rwa [toString_natCast]

theorem readInteger_toString {below above : Nat} {n : Int} (low : -below ≤ n) (high : n ≤ above) :
    readInteger below above (toString n).toList = .ok n :=
  readInteger_ok_iff.mpr ⟨(canonical_iff.mpr rfl).writes, low, high⟩

end TezosNode.Text
