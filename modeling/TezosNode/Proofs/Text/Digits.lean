import TezosNode.Decimal.Power
import TezosNode.Text.Blank
import TezosNode.Text.Integer

namespace TezosNode

theorem Decimal.tenTo_succ (n : Nat) : tenTo (n + 1) = tenTo n * 10 := rfl

theorem Decimal.tenTo_add (m n : Nat) : tenTo (m + n) = tenTo m * tenTo n := Nat.pow_add 10 m n

theorem Decimal.tenTo_pos (n : Nat) : 0 < tenTo n := Nat.pow_pos (by decide)

namespace Text

def digits (n : Nat) : List Nat :=
  if n < 10 then [n] else digits (n / 10) ++ [n % 10]

/-- Adds up digits behind a number. -/
def tally (start : Nat) (ds : List Nat) : Nat := ds.foldl (fun n d => n * 10 + d) start

theorem tally_cons (start d : Nat) (ds : List Nat) :
    tally start (d :: ds) = tally (start * 10 + d) ds := rfl

theorem tally_append (start : Nat) (ds others : List Nat) :
    tally start (ds ++ others) = tally (tally start ds) others := List.foldl_append

theorem le_tally (start : Nat) (ds : List Nat) : start ≤ tally start ds := by
  induction ds generalizing start with
  | nil => exact Nat.le_refl _
  | cons d ds ih =>
    have next := ih (start * 10 + d)
    rw [tally_cons]
    omega

theorem tally_zeros (k : Nat) (ds : List Nat) : tally 0 (List.replicate k 0 ++ ds) = tally 0 ds := by
  induction k with
  | zero => rfl
  | succ k ih => exact ih

theorem tally_digits (n : Nat) : tally 0 (digits n) = n := by
  induction n using digits.induct with
  | case1 n small =>
    rw [digits, if_pos small]
    exact Nat.zero_add n
  | case2 n large ih =>
    rw [digits, if_neg large, tally_append, ih]
    change n / 10 * 10 + n % 10 = n
    omega

theorem digits_lt (n : Nat) : ∀ d ∈ digits n, d < 10 := by
  induction n using digits.induct with
  | case1 n small =>
    rw [digits, if_pos small]
    simpa using small
  | case2 n large ih =>
    rw [digits, if_neg large]
    intro d member
    rcases List.mem_append.mp member with earlier | last
    · exact ih d earlier
    · cases List.mem_singleton.mp last
      omega

theorem digits_eq_cons (n : Nat) : ∃ d ds, digits n = d :: ds ∧ (d = 0 → n = 0 ∧ ds = []) := by
  induction n using digits.induct with
  | case1 n small =>
    rw [digits, if_pos small]
    exact ⟨n, [], rfl, fun zero => ⟨zero, rfl⟩⟩
  | case2 n large ih =>
    obtain ⟨d, ds, shape, leading⟩ := ih
    rw [digits, if_neg large, shape]
    refine ⟨d, ds ++ [n % 10], rfl, fun zero => ?_⟩
    have tiny := (leading zero).1
    omega

theorem length_digits_le {n width : Nat} (positive : 0 < width) (small : n < Decimal.tenTo width) :
    (digits n).length ≤ width := by
  induction width generalizing n with
  | zero => omega
  | succ width ih =>
    rw [digits]
    split
    · simp
    · rename_i large
      have less : n / 10 < Decimal.tenTo width := by
        rw [Decimal.tenTo_succ] at small
        omega
      have wide : 0 < width := by
        rcases Nat.eq_zero_or_pos width with rfl | positive
        · replace less : n / 10 < 1 := less
          omega
        · exact positive
      have shorter := ih wide less
      rw [List.length_append, List.length_singleton]
      omega

def digitChars (ds : List Nat) : List Char := ds.map Nat.digitChar

theorem toList_repr (n : Nat) : (Nat.repr n).toList = digitChars (digits n) := by
  rw [Nat.toList_repr]
  induction n using digits.induct with
  | case1 n small =>
    rw [digits, if_pos small, Nat.toDigits_of_lt_base small]
    rfl
  | case2 n large ih =>
    rw [digits, if_neg large, Nat.toDigits_of_base_le (by decide) (by omega), ih]
    simp [digitChars]

theorem toString_natCast (n : Nat) : (toString (n : Int)).toList = digitChars (digits n) :=
  toList_repr n

theorem toString_negative {n : Int} (negative : n < 0) :
    (toString n).toList = '-' :: digitChars (digits n.natAbs) := by
  obtain ⟨k, rfl⟩ := Int.eq_negSucc_of_lt_zero negative
  rw [← toList_repr]
  change ("-" ++ Nat.repr (k + 1)).toList = _
  simp

theorem digit?_digitChar : ∀ d < 10, digit? (Nat.digitChar d) = some d := by decide

theorem digitChar_ne_sign : ∀ d < 10, Nat.digitChar d ≠ '+' ∧ Nat.digitChar d ≠ '-' := by decide

theorem isBlank_digitChar : ∀ d < 10, isBlank (Nat.digitChar d) = false := by decide

def numberOf (cs : List Char) : Nat := tally 0 (cs.map fun c => c.toNat - '0'.toNat)

def integerOf : List Char → Int
  | '-' :: cs => -(numberOf cs : Int)
  | '+' :: cs => numberOf cs
  | cs => numberOf cs

end Text

end TezosNode
