import Mathlib.Data.List.TakeWhile
import TezosNode.Proofs.Url.Percent
import TezosNode.Url.Form
import TezosNode.Url.Pieces

namespace TezosNode.Url

open Bytes

def spaced (c : Char) : Char := if c == '+' then ' ' else c

def formChar (c : Char) : List Char :=
  if c == ' ' then ['+'] else if isFormChar c then [c] else percentChar c

theorem upperHexChar_isAlphanum : ∀ n < 16, (upperHexChar n).isAlphanum = true := by decide

theorem mem_percentChar {c d : Char} (member : d ∈ percentChar c) : d = '%' ∨ d.isAlphanum = true := by
  obtain ⟨b, _, inside⟩ := List.mem_flatMap.mp member
  have bound := b.toNat_lt
  simp only [percentByte, List.mem_cons, List.not_mem_nil, or_false] at inside
  rcases inside with rfl | rfl | rfl
  · exact .inl rfl
  · exact .inr (upperHexChar_isAlphanum _ (by omega))
  · exact .inr (upperHexChar_isAlphanum _ (by omega))

theorem percentChar_spaced (c : Char) : (percentChar c).map spaced = percentChar c := by
  have same : ∀ d ∈ percentChar c, spaced d = id d := by
    intro d member
    have other : ¬d = '+' := by
      rintro rfl
      rcases mem_percentChar member with percent | letter
      · cases percent
      · revert letter
        decide
    simp [spaced, other]
  rw [List.map_congr_left same, List.map_id]

/-- One encoded character is read back, whatever follows it. -/
theorem percentDecode_formChar (c : Char) (rest : Bytes) :
    percentDecode (ofChars ((formChar c).map spaced) ++ rest) =
      String.utf8EncodeChar c ++ percentDecode rest := by
  have single (d : Char) : ofChars [d] = String.utf8EncodeChar d := List.flatMap_singleton _ _
  unfold formChar
  by_cases space : c = ' '
  · subst space
    exact percentDecode_char (c := ' ') (by decide) rest
  · rw [if_neg (by simpa using space)]
    by_cases plain : isFormChar c = true
    · have percent : c ≠ '%' := by
        rintro rfl
        revert plain
        decide
      have plus : spaced c = c := by
        have other : ¬c = '+' := by
          rintro rfl
          revert plain
          decide
        simp [spaced, other]
      rw [if_pos plain, List.map_singleton, plus, single, percentDecode_char percent]
    · rw [if_neg plain, percentChar_spaced, percentDecode_percentChar]

theorem formDecode_formEncode (s : String) : formDecode (formEncode s) = some s := by
  have all (cs : List Char) : percentDecode (ofChars ((cs.flatMap formChar).map spaced)) = ofChars cs := by
    induction cs with
    | nil => rfl
    | cons c cs ih =>
      rw [List.flatMap_cons, List.map_append, ofChars_append, percentDecode_formChar, ih, ofChars_cons]
  have decoded : formDecode (formEncode s) =
      (percentDecode (ofString (String.ofList ((s.toList.flatMap formChar).map spaced)))).text? := rfl
  rw [decoded, ofString_ofList, all, text?_ofChars, String.ofList_toList]

theorem mem_formEncode {s : String} {c : Char} (member : c ∈ formEncode s) :
    c = '+' ∨ c = '%' ∨ isFormChar c = true := by
  obtain ⟨d, _, inside⟩ := List.mem_flatMap.mp member
  by_cases space : (d == ' ') = true
  · rw [if_pos space] at inside
    exact .inl (List.mem_singleton.mp inside)
  · rw [if_neg space] at inside
    by_cases plain : isFormChar d = true
    · rw [if_pos plain] at inside
      rw [List.mem_singleton.mp inside]
      exact .inr (.inr plain)
    · rw [if_neg plain] at inside
      rcases mem_percentChar inside with percent | letter
      · exact .inr (.inl percent)
      · exact .inr (.inr (by simp [isFormChar, letter]))

theorem formEncode_separators {s : String} {c : Char} (member : c ∈ formEncode s) : c ≠ '&' ∧ c ≠ '=' := by
  rcases mem_formEncode member with rfl | rfl | plain
  · decide
  · decide
  · constructor
    · rintro rfl
      revert plain
      decide
    · rintro rfl
      revert plain
      decide

namespace Parameter

theorem read_text (p : Parameter) : read p.text = some p := by
  obtain ⟨name, value⟩ := p
  have plain (s : String) : ∀ c ∈ formEncode s, (c != '=') = true := by
    intro c member
    simpa using (formEncode_separators member).2
  cases value with
  | none =>
    have taken : (formEncode name).takeWhile (· != '=') = formEncode name :=
      List.takeWhile_eq_self_iff.mpr (plain name)
    have left : (formEncode name).dropWhile (· != '=') = [] := List.dropWhile_eq_nil_iff.mpr (plain name)
    simp only [text, read, taken, left, formDecode_formEncode]
    rfl
  | some value =>
    have taken : (formEncode name ++ '=' :: formEncode value).takeWhile (· != '=') = formEncode name := by
      rw [List.takeWhile_append_of_pos (plain name)]
      simp
    have left : (formEncode name ++ '=' :: formEncode value).dropWhile (· != '=') =
        '=' :: formEncode value := by
      rw [List.dropWhile_append_of_pos (plain name)]
      simp
    simp only [text, read, taken, left, formDecode_formEncode]
    rfl

theorem text_undivided {p : Parameter} {c : Char} (member : c ∈ p.text) : c ≠ '&' := by
  obtain ⟨name, value⟩ := p
  cases value with
  | none => exact (formEncode_separators member).1
  | some value =>
    rcases List.mem_append.mp member with first | second
    · exact (formEncode_separators first).1
    · rcases List.mem_cons.mp second with rfl | third
      · decide
      · exact (formEncode_separators third).1

end Parameter

section

variable (url : Url) (parameters : List Parameter)

@[simp]
theorem withParameters_scheme : (url.withParameters parameters).scheme = url.scheme := by
  rw [withParameters]
  split <;> rfl

@[simp]
theorem withParameters_authority : (url.withParameters parameters).authority = url.authority := by
  rw [withParameters]
  split <;> rfl

@[simp]
theorem withParameters_path : (url.withParameters parameters).path = url.path := by
  rw [withParameters]
  split <;> rfl

@[simp]
theorem withParameters_fragment : (url.withParameters parameters).fragment = url.fragment := by
  rw [withParameters]
  split <;> rfl

end

end TezosNode.Url
