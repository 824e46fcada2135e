import TezosNode.Text.Quoted

namespace TezosNode.Text

def hexValue (c : Char) : Nat := if c ≤ '9' then c.toNat - '0'.toNat else c.toNat - 'a'.toNat + 10

def hexNumber (cs : List Char) : Nat := cs.foldl (fun n c => n * 16 + hexValue c) 0

theorem hexValue_digitChar : ∀ d < 16, hexValue (Nat.digitChar d) = d := by decide

theorem lowerHex_eq (n : Nat) :
    lowerHex n = if n < 16 then [n.digitChar] else lowerHex (n / 16) ++ [(n % 16).digitChar] :=
  Nat.toDigits_eq_if (by decide)

theorem hexNumber_lowerHex (n : Nat) : hexNumber (lowerHex n) = n := by
  induction n using Nat.strongRecOn with
  | ind n ih =>
    rw [lowerHex_eq]
    split
    · next small =>
      change 0 * 16 + hexValue n.digitChar = n
      rw [hexValue_digitChar n small]
      omega
    · have last := hexValue_digitChar (n % 16) (Nat.mod_lt n (by decide))
      calc
        hexNumber (lowerHex (n / 16) ++ [(n % 16).digitChar]) =
            hexNumber (lowerHex (n / 16)) * 16 + hexValue (n % 16).digitChar := List.foldl_append
        _ = n / 16 * 16 + n % 16 := by rw [ih (n / 16) (by omega), last]
        _ = n := by omega

theorem mem_lowerHex {n : Nat} {c : Char} (member : c ∈ lowerHex n) : ∃ d < 16, c = Nat.digitChar d := by
  induction n using Nat.strongRecOn with
  | ind n ih =>
    rw [lowerHex_eq] at member
    split at member
    · next small => exact ⟨n, small, List.mem_singleton.mp member⟩
    · rcases List.mem_append.mp member with front | last
      · exact ih (n / 16) (by omega) front
      · exact ⟨n % 16, Nat.mod_lt n (by decide), List.mem_singleton.mp last⟩

/-- The character that an escape at the front stands for, and what is behind the escape. -/
def unescape? : List Char → Option (Char × List Char)
  | '\\' :: '0' :: rest => some ('\x00', rest)
  | '\\' :: 't' :: rest => some ('\t', rest)
  | '\\' :: 'n' :: rest => some ('\n', rest)
  | '\\' :: 'r' :: rest => some ('\r', rest)
  | '\\' :: 'u' :: rest =>
    let digits := rest.tail.takeWhile (· ≠ '\x7d')
    some (Char.ofNat (hexNumber digits), rest.drop (digits.length + 2))
  | '\\' :: c :: rest => some (c, rest)
  | c :: rest => some (c, rest)
  | [] => none

theorem unescape?_plain {c : Char} (unmarked : c ≠ '\\') (rest : List Char) :
    unescape? (c :: rest) = some (c, rest) := by
  unfold unescape?
  split <;> simp_all

theorem unescape?_codePoint (c : Char) (rest : List Char) :
    unescape? ('\\' :: 'u' :: '\x7b' :: (lowerHex c.toNat ++ '\x7d' :: rest)) = some (c, rest) := by
  have apart : ∀ d < 16, Nat.digitChar d ≠ '\x7d' := by decide
  have inside : ∀ digit ∈ lowerHex c.toNat, decide (digit ≠ '\x7d') = true := by
    intro digit member
    obtain ⟨d, small, rfl⟩ := mem_lowerHex member
    exact decide_eq_true (apart d small)
  have digits : (lowerHex c.toNat ++ '\x7d' :: rest).takeWhile (· ≠ '\x7d') = lowerHex c.toNat := by
    rw [List.takeWhile_append_of_pos inside, List.takeWhile_cons_of_neg (by simp), List.append_nil]
  have behind : (lowerHex c.toNat ++ '\x7d' :: rest).drop ((lowerHex c.toNat).length + 1) = rest := by
    rw [List.drop_append, List.drop_of_length_le (by omega), Nat.add_sub_cancel_left]
    rfl
  change some (Char.ofNat (hexNumber ((lowerHex c.toNat ++ '\x7d' :: rest).takeWhile (· ≠ '\x7d'))),
    (lowerHex c.toNat ++ '\x7d' :: rest).drop
      (((lowerHex c.toNat ++ '\x7d' :: rest).takeWhile (· ≠ '\x7d')).length + 1)) = _
  rw [digits, behind, hexNumber_lowerHex, Char.ofNat_toNat]

theorem unescape?_escapeChar (c : Char) (rest : List Char) :
    unescape? (escapeChar '"' c ++ rest) = some (c, rest) := by
  unfold escapeChar
  split
  · next same => subst same; rfl
  split
  · next same => subst same; rfl
  split
  · next same => subst same; rfl
  split
  · next same => subst same; rfl
  split
  · next marked => rcases marked with rfl | rfl <;> rfl
  next unmarked =>
    split
    · exact unescape?_plain (fun same => unmarked (.inl same)) rest
    · rw [List.append_assoc, List.append_assoc]
      exact unescape?_codePoint c rest

theorem escapeChar_head (c : Char) : ∃ first others, escapeChar '"' c = first :: others ∧ first ≠ '"' := by
  unfold escapeChar
  repeat' split
  all_goals try exact ⟨'\\', _, rfl, by decide⟩
  next unmarked _ => exact ⟨c, [], rfl, fun same => unmarked (.inr same)⟩

theorem escaped_inj {cs ds rest others : List Char}
    (same : cs.flatMap (escapeChar '"') ++ '"' :: rest = ds.flatMap (escapeChar '"') ++ '"' :: others) :
    cs = ds ∧ rest = others := by
  have ends (d : Char) (ds rest others : List Char) :
      '"' :: rest ≠ (d :: ds).flatMap (escapeChar '"') ++ '"' :: others := by
    obtain ⟨first, more, shape, apart⟩ := escapeChar_head d
    rw [List.flatMap_cons, shape]
    intro equal
    exact apart (List.cons.inj equal).1.symm
  induction cs generalizing ds with
  | nil =>
    cases ds with
    | nil => exact ⟨rfl, (List.cons.inj same).2⟩
    | cons d ds => exact absurd same (ends d ds rest others)
  | cons c cs ih =>
    cases ds with
    | nil => exact absurd same.symm (ends c cs others rest)
    | cons d ds =>
      have read := congrArg unescape? same
      rw [List.flatMap_cons, List.flatMap_cons, List.append_assoc, List.append_assoc, unescape?_escapeChar,
        unescape?_escapeChar] at read
      obtain ⟨rfl, behind⟩ := Prod.mk.inj (Option.some.inj read)
      obtain ⟨rfl, left⟩ := ih behind
      exact ⟨rfl, left⟩

theorem toList_quote (s : String) : (quote s).toList = '"' :: (s.toList.flatMap (escapeChar '"') ++ ['"']) :=
  String.toList_ofList

/-- A quoted text shows its own end: from what stands behind it nothing can be added to it. -/
theorem quote_append_inj {s t : String} {rest others : List Char}
    (same : (quote s).toList ++ rest = (quote t).toList ++ others) : s = t ∧ rest = others := by
  rw [toList_quote, toList_quote, List.cons_append, List.cons_append, List.append_assoc, List.append_assoc] at same
  obtain ⟨texts, behind⟩ := escaped_inj (List.cons.inj same).2
  exact ⟨String.toList_inj.mp texts, behind⟩

def Prints (cs : List Char) : Prop := ∀ c ∈ cs, isPrintable c = true

instance (cs : List Char) : Decidable (Prints cs) := List.decidableBAll _ cs

theorem Prints.append {cs ds : List Char} (front : Prints cs) (back : Prints ds) : Prints (cs ++ ds) := by
  intro c member
  rcases List.mem_append.mp member with first | last
  · exact front c first
  · exact back c last

theorem prints_lowerHex (n : Nat) : Prints (lowerHex n) := by
  have all : ∀ d < 16, isPrintable (Nat.digitChar d) = true := by decide
  intro c member
  obtain ⟨d, small, rfl⟩ := mem_lowerHex member
  exact all d small

theorem prints_escapeChar (c : Char) : Prints (escapeChar '"' c) := by
  unfold escapeChar
  split
  · decide
  split
  · decide
  split
  · decide
  split
  · decide
  split
  · next marked => rcases marked with rfl | rfl <;> decide
  split
  · next prints => simpa [Prints] using prints
  · have opens : Prints ['\\', 'u', '\x7b'] := by decide
    have closes : Prints ['\x7d'] := by decide
    exact (opens.append (prints_lowerHex _)).append closes

theorem prints_quote (s : String) : Prints (quote s).toList := by
  have inside : Prints (s.toList.flatMap (escapeChar '"')) := by
    intro c member
    obtain ⟨d, _, part⟩ := List.mem_flatMap.mp member
    exact prints_escapeChar d c part
  have mark : Prints ['"'] := by decide
  rw [toList_quote]
  exact mark.append (inside.append mark)

def IsControl (c : Char) : Prop := c.toNat < 0x20 ∨ 0x7F ≤ c.toNat ∧ c.toNat ≤ 0x9F

theorem not_isControl_of_isPrintable {c : Char} (prints : isPrintable c = true) : ¬ IsControl c := by
  unfold isPrintable at prints
  unfold IsControl
  split at prints
  · simp only [Bool.and_eq_true, decide_eq_true_eq] at prints
    omega
  · have first : (128, 160) ∈ unprintableRanges := List.mem_cons_self
    have outside := List.all_eq_true.mp prints _ first
    simp only [Bool.or_eq_true, decide_eq_true_eq] at outside
    omega

end TezosNode.Text
