import Mathlib.Data.List.Flatten
import Mathlib.Data.List.Induction
import TezosNode.Proofs.Url.Percent
import TezosNode.Url.Pieces
import TezosNode.Url.Segments

/-!
Segments put between slashes and read again. Only segments that stand for themselves come back: a slash
inside one divides it, and a dot segment leaves less than was given. So that the second case need not be
followed in detail, the room is counted that texts and what they are read as take.
-/

namespace TezosNode.Url

open Bytes

/-- What a text is read as after its percent triples are. -/
def meaning (cs : List Char) : Bytes := percentDecode (ofChars cs)

theorem meaning_percentEncode (cs : List Char) : meaning (percentEncode inPath cs) = meaning cs :=
  percentDecode_percentEncode inPath_spares cs

section

variable {p : Char → Bool} {separator : Char}

theorem joined_cons (separator : Char) (text : List Char) {rest : List (List Char)} (more : rest ≠ []) :
    joined separator (text :: rest) = text ++ separator :: joined separator rest := by
  cases rest with
  | nil => exact absurd rfl more
  | cons next rest => rfl

theorem flatMap_separator {texts : List (List Char)} (present : texts ≠ []) :
    texts.flatMap (separator :: ·) = separator :: joined separator texts := by
  induction texts, present using List.recNeNil with
  | singleton text => simp [joined]
  | cons text rest more ih => rw [List.flatMap_cons, ih, joined_cons separator text more, List.cons_append]

theorem pieces_append {front : List Char} (undivided : ∀ c ∈ front, p c = false)
    (separates : p separator = true) (rest : List Char) :
    pieces p (front ++ separator :: rest) = front :: pieces p rest := by
  induction front with
  | nil => rw [List.nil_append, pieces, if_pos separates]
  | cons c front ih =>
    have other : ¬p c = true := by simp [undivided c]
    rw [List.cons_append, pieces, if_neg other, ih fun d member => undivided d (List.mem_cons_of_mem _ member)]

theorem pieces_cons {c : Char} (other : ¬p c = true) (cs : List Char) :
    ∃ piece rest, pieces p cs = piece :: rest ∧ pieces p (c :: cs) = (c :: piece) :: rest := by
  cases divided : pieces p cs with
  | nil => exact absurd divided (pieces_ne_nil p cs)
  | cons piece rest => exact ⟨piece, rest, rfl, by rw [pieces, if_neg other, divided]⟩

theorem pieces_joined {texts : List (List Char)} (present : texts ≠ []) (separates : p separator = true)
    (undivided : ∀ text ∈ texts, ∀ c ∈ text, p c = false) : pieces p (joined separator texts) = texts := by
  induction texts, present using List.recNeNil with
  | singleton text => exact pieces_eq_singleton (undivided text List.mem_cons_self)
  | cons text rest more ih =>
    rw [joined_cons separator text more, pieces_append (undivided text List.mem_cons_self) separates,
      ih fun other member => undivided other (List.mem_cons_of_mem _ member)]

theorem length_pieces (cs : List Char) : (pieces p cs).length = cs.countP p + 1 := by
  induction cs with
  | nil => rfl
  | cons c cs ih =>
    by_cases separates : p c = true
    · rw [pieces, if_pos separates, List.length_cons, ih, List.countP_cons_of_pos separates]
    · obtain ⟨piece, rest, before, after⟩ := pieces_cons separates cs
      rw [after, List.countP_cons_of_neg separates, ← ih, before]
      rfl

theorem countP_joined {texts : List (List Char)} (present : texts ≠ []) (separates : p separator = true) :
    (joined separator texts).countP p + 1 = texts.length + texts.flatten.countP p := by
  induction texts, present using List.recNeNil with
  | singleton text => simp [joined, Nat.add_comm]
  | cons text rest more ih =>
    rw [joined_cons separator text more, List.countP_append, List.countP_cons_of_pos separates,
      List.length_cons, List.flatten_cons, List.countP_append]
    omega

theorem undivided_of_length_pieces {texts : List (List Char)} (present : texts ≠ [])
    (separates : p separator = true) (many : (pieces p (joined separator texts)).length = texts.length) :
    ∀ text ∈ texts, ∀ c ∈ text, p c = false := by
  have counted := countP_joined present separates
  rw [length_pieces] at many
  have nothing : texts.flatten.countP p = 0 := by omega
  intro text member c inside
  simpa using List.countP_eq_zero.mp nothing c (List.mem_flatten.mpr ⟨text, member, inside⟩)

end

def isDots (raw : List Char) : Bool :=
  isDoubleDot (percentEncode inPath raw) || isSingleDot (percentEncode inPath raw)

theorem meaning_of_plainDots {cs : List Char} {n : Nat} (dots : plainDots cs = List.replicate n '.') :
    meaning cs = ofChars (List.replicate n '.') := by
  fun_induction plainDots cs generalizing n with
  | case1 cs ih | case2 cs ih =>
    cases n with
    | zero => cases dots
    | succ n =>
      rw [List.replicate_succ] at dots ⊢
      exact congrArg (0x2e :: ·) (ih (List.cons.inj dots).2)
  | case3 c cs _ _ ih =>
    cases n with
    | zero => cases dots
    | succ n =>
      rw [List.replicate_succ] at dots ⊢
      obtain ⟨rfl, rest⟩ := List.cons.inj dots
      have plain := percentDecode_char (c := '.') (by decide) (ofChars cs)
      exact plain.trans (congrArg (0x2e :: ·) (ih rest))
  | case4 =>
    cases n with
    | zero => rfl
    | succ n => cases dots

theorem ne_nil_of_isDots {raw : List Char} (dots : isDots raw = true) : raw ≠ [] := by
  rintro rfl
  revert dots
  decide

theorem isDots_iff {raw : List Char} (literal : meaning raw = ofChars raw) :
    isDots raw = true ↔ raw = ['.'] ∨ raw = ['.', '.'] := by
  have these {n : Nat} (dots : plainDots (percentEncode inPath raw) = List.replicate n '.') :
      raw = List.replicate n '.' := by
    apply ofChars_inj
    rw [← literal, ← meaning_percentEncode, meaning_of_plainDots dots]
  constructor
  · intro dots
    rcases Bool.or_eq_true_iff.mp dots with double | single
    · exact .inr (these (n := 2) (eq_of_beq double))
    · exact .inl (these (n := 1) (eq_of_beq single))
  · rintro (rfl | rfl)
    · decide
    · decide

theorem addSegment_plain {raw : List Char} (plain : isDots raw = false) (isLast : Bool)
    (before : List (List Char)) : addSegment isLast before raw = percentEncode inPath raw :: before := by
  obtain ⟨double, single⟩ := Bool.or_eq_false_iff.mp plain
  have notDouble : ¬isDoubleDot (percentEncode inPath raw) = true := by simp [double]
  have notSingle : ¬isSingleDot (percentEncode inPath raw) = true := by simp [single]
  rw [addSegment]
  simp only [if_neg notDouble, if_neg notSingle]

theorem addSegments_cons (add : Bool → List (List Char) → List Char → List (List Char))
    (before : List (List Char)) (raw : List Char) (rest : List (List Char)) :
    ∃ isLast, addSegments add before (raw :: rest) = addSegments add (add isLast before raw) rest := by
  cases rest with
  | nil => exact ⟨true, rfl⟩
  | cons next rest => exact ⟨false, rfl⟩

theorem addSegments_plain {raws : List (List Char)} (plain : ∀ raw ∈ raws, isDots raw = false)
    (before : List (List Char)) :
    addSegments addSegment before raws = (raws.map (percentEncode inPath)).reverse ++ before := by
  induction raws generalizing before with
  | nil => rfl
  | cons raw rest ih =>
    obtain ⟨isLast, added⟩ := addSegments_cons addSegment before raw rest
    rw [added, addSegment_plain (plain raw List.mem_cons_self),
      ih fun other member => plain other (List.mem_cons_of_mem _ member)]
    simp

def room : List Bytes → Nat
  | [] => 0
  | part :: parts => part.length + 1 + room parts

theorem room_append (parts others : List Bytes) : room (parts ++ others) = room parts + room others := by
  induction parts with
  | nil => exact (Nat.zero_add _).symm
  | cons part parts ih =>
    rw [List.cons_append, room, room, ih]
    omega

theorem room_reverse (parts : List Bytes) : room parts.reverse = room parts := by
  induction parts with
  | nil => rfl
  | cons part parts ih =>
    calc
      room (part :: parts).reverse = room parts.reverse + room [part] := by
        rw [List.reverse_cons, room_append]
      _ = room parts + (part.length + 1) := by rw [ih]; rfl
      _ = room (part :: parts) := Nat.add_comm _ _

def meantRoom (names : List (List Char)) : Nat := room (names.map meaning)

def givenRoom (texts : List (List Char)) : Nat := room (texts.map ofChars)

theorem meantRoom_dropLast (before : List (List Char)) : meantRoom (dropLast before) ≤ meantRoom before := by
  cases before with
  | nil => exact Nat.le_refl _
  | cons segment before =>
    rw [dropLast]
    split
    · exact Nat.le_refl _
    · exact Nat.le_add_left _ _

theorem meantRoom_percentEncode (raw : List Char) (before : List (List Char)) :
    meantRoom (percentEncode inPath raw :: before) ≤ meantRoom before + (ofChars raw).length + 1 := by
  have shorter : (meaning raw).length ≤ (ofChars raw).length := length_percentDecode_le _
  rw [meantRoom, List.map_cons, room, meaning_percentEncode]
  change _ + 1 + meantRoom before ≤ _
  omega

theorem meantRoom_addSegment_dots {raw : List Char} (dots : isDots raw = true) (isLast : Bool)
    (before : List (List Char)) :
    meantRoom (addSegment isLast before raw) < meantRoom before + (ofChars raw).length + 1 := by
  have given : 0 < (ofChars raw).length := by
    cases raw with
    | nil => exact absurd rfl (ne_nil_of_isDots dots)
    | cons c cs =>
      rw [ofChars_cons, List.length_append]
      exact Nat.add_pos_left (by simpa using c.utf8Size_pos) _
  have ended (segments : List (List Char)) :
      meantRoom (if isLast then [] :: segments else segments) ≤ meantRoom segments + 1 := by
    cases isLast with
    | true =>
      have slash : meantRoom ([] :: segments) = 0 + 1 + meantRoom segments := rfl
      simp only [if_true, slash]
      omega
    | false => exact Nat.le_add_right _ _
  have dropped := meantRoom_dropLast before
  rcases double : isDoubleDot (percentEncode inPath raw) with _ | _
  · have single : isSingleDot (percentEncode inPath raw) = true := by
      simpa [isDots, double] using dots
    have ends := ended before
    simp only [addSegment, double, single, if_true, Bool.false_eq_true, if_false]
    omega
  · have ends := ended (dropLast before)
    simp only [addSegment, double, if_true]
    omega

theorem meantRoom_addSegment (isLast : Bool) (before : List (List Char)) (raw : List Char) :
    meantRoom (addSegment isLast before raw) ≤ meantRoom before + (ofChars raw).length + 1 := by
  rcases dots : isDots raw with _ | _
  · rw [addSegment_plain dots]
    exact meantRoom_percentEncode raw before
  · exact Nat.le_of_lt (meantRoom_addSegment_dots dots isLast before)

theorem givenRoom_cons (raw : List Char) (rest : List (List Char)) :
    givenRoom (raw :: rest) = (ofChars raw).length + 1 + givenRoom rest := rfl

theorem meantRoom_addSegments (before raws : List (List Char)) :
    meantRoom (addSegments addSegment before raws) ≤ meantRoom before + givenRoom raws := by
  induction raws generalizing before with
  | nil => exact Nat.le_add_right _ _
  | cons raw rest ih =>
    obtain ⟨isLast, added⟩ := addSegments_cons addSegment before raw rest
    have first := meantRoom_addSegment isLast before raw
    have others := ih (addSegment isLast before raw)
    rw [added, givenRoom_cons]
    omega

/-- With dots anywhere, less is left than was given. -/
theorem meantRoom_addSegments_dots {raws : List (List Char)} {raw : List Char} (member : raw ∈ raws)
    (dots : isDots raw = true) (before : List (List Char)) :
    meantRoom (addSegments addSegment before raws) < meantRoom before + givenRoom raws := by
  induction raws generalizing before with
  | nil => cases member
  | cons first rest ih =>
    obtain ⟨isLast, added⟩ := addSegments_cons addSegment before first rest
    rw [added, givenRoom_cons]
    rcases List.mem_cons.mp member with rfl | later
    · have less := meantRoom_addSegment_dots dots isLast before
      have others := meantRoom_addSegments (addSegment isLast before raw) rest
      omega
    · have some := meantRoom_addSegment isLast before first
      have less := ih later (addSegment isLast before first)
      omega

theorem givenRoom_pieces (p : Char → Bool) (cs : List Char) :
    givenRoom (pieces p cs) ≤ (ofChars cs).length + 1 := by
  induction cs with
  | nil => exact Nat.le_refl _
  | cons c cs ih =>
    have one : 0 < (String.utf8EncodeChar c).length := by simpa using c.utf8Size_pos
    have length : (ofChars (c :: cs)).length = (String.utf8EncodeChar c).length + (ofChars cs).length := by
      rw [ofChars_cons, List.length_append]
    rw [length]
    by_cases separates : p c = true
    · have empty : givenRoom ([] :: pieces p cs) = 0 + 1 + givenRoom (pieces p cs) := rfl
      rw [pieces, if_pos separates]
      omega
    · obtain ⟨piece, rest, before, after⟩ := pieces_cons separates cs
      rw [before, givenRoom_cons] at ih
      rw [after, givenRoom_cons, ofChars_cons, List.length_append]
      omega

theorem givenRoom_texts {texts : List (List Char)} (present : texts ≠ []) :
    givenRoom texts = (ofChars (joined '/' texts)).length + 1 := by
  induction texts, present using List.recNeNil with
  | singleton text => rfl
  | cons text rest more ih =>
    have slash : (ofChars (text ++ '/' :: joined '/' rest)).length =
        (ofChars text).length + (1 + (ofChars (joined '/' rest)).length) := by
      rw [ofChars_append, ofChars_cons, List.length_append, List.length_append]
      rfl
    rw [givenRoom_cons, ih, joined_cons '/' text more, slash]
    omega

section

variable {isSlash : Char → Bool} {texts : List (List Char)}

theorem readSegments_joined (slash : isSlash '/' = true) (present : texts ≠ [])
    (undivided : ∀ text ∈ texts, ∀ c ∈ text, isSlash c = false) (plain : ∀ text ∈ texts, isDots text = false) :
    readSegments isSlash [] (joined '/' texts) = .segments (texts.map (percentEncode inPath)) := by
  rw [readSegments, pieces_joined present slash undivided, addSegments_plain plain, List.reverse_nil,
    List.append_nil, List.reverse_reverse]

/-- Texts of which nothing is lost: where some of their characters are read as segments that mean what the
texts are, all of them were read, and each as one segment. -/
theorem nothing_lost {cs : List Char} {names : List (List Char)} (slash : isSlash '/' = true)
    (present : texts ≠ []) (part : cs.Sublist (joined '/' texts))
    (found : readSegments isSlash [] cs = .segments names) (meant : names.map meaning = texts.map ofChars) :
    cs = joined '/' texts ∧ (∀ text ∈ texts, ∀ c ∈ text, isSlash c = false) ∧
      ∀ text ∈ texts, isDots text = false := by
  have read : (addSegments addSegment [] (pieces isSlash cs)).reverse = names := Path.segments.inj found
  have reversed : meantRoom (addSegments addSegment [] (pieces isSlash cs)) = meantRoom names := by
    rw [← read, meantRoom, meantRoom, List.map_reverse, room_reverse]
  -- The pieces of a part take no more room than all texts do, and the names take just that much.
  have all : meantRoom names = givenRoom texts := congrArg room meant
  have most := givenRoom_pieces isSlash cs
  have bytes : (ofChars cs).Sublist (ofChars (joined '/' texts)) := part.flatMap _
  have fewer := bytes.length_le
  have whole := givenRoom_texts present
  have plain : ∀ raw ∈ pieces isSlash cs, isDots raw = false := by
    intro raw member
    cases dots : isDots raw with
    | false => rfl
    | true =>
      have less : _ < 0 + _ := meantRoom_addSegments_dots member dots []
      omega
  have length : (ofChars cs).length = (ofChars (joined '/' texts)).length := by
    have least : _ ≤ 0 + _ := meantRoom_addSegments [] (pieces isSlash cs)
    omega
  have same : cs = joined '/' texts := ofChars_inj (bytes.eq_of_length length)
  have undivided : ∀ text ∈ texts, ∀ c ∈ text, isSlash c = false := by
    apply undivided_of_length_pieces present slash
    have many := congrArg List.length meant
    rw [← read, addSegments_plain plain] at many
    simpa [same] using many
  refine ⟨same, undivided, ?_⟩
  rwa [same, pieces_joined present slash undivided] at plain

end

end TezosNode.Url
