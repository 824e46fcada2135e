import Mathlib.Data.List.Forall2
import TezosNode.Client.Refusal
import TezosNode.Proofs.Text.Escapes

/-!
What a refusal says of its records. From the line it prints, the number of the records is known and the class
and the id of each: no text that the node sends can stand for another record or for a line of its own.
-/

namespace TezosNode

open Text

namespace ErrorRecord

structure SameWords (e f : ErrorRecord) : Prop where
  kind : e.kind.name = f.kind.name
  id : e.id = f.id

theorem toList_message (e : ErrorRecord) :
    e.message.toList =
      "kind = ".toList ++ ((quote e.kind.name).toList ++ (", id = ".toList ++ (quote e.id).toList)) := by
  simp only [message, String.toList_append, List.append_assoc]

theorem message_append_inj {e f : ErrorRecord} {rest others : List Char}
    (same : e.message.toList ++ rest = f.message.toList ++ others) : SameWords e f ∧ rest = others := by
  simp only [toList_message, List.append_assoc] at same
  obtain ⟨kind, behind⟩ := quote_append_inj (List.append_cancel_left same)
  obtain ⟨id, left⟩ := quote_append_inj (List.append_cancel_left behind)
  exact ⟨⟨kind, id⟩, left⟩

theorem message_ne_nil (e : ErrorRecord) : e.message.toList ≠ [] := by
  rw [toList_message]
  exact List.cons_ne_nil _ _

theorem prints_message (e : ErrorRecord) : Prints e.message.toList := by
  have kind : Prints "kind = ".toList := by decide
  have id : Prints ", id = ".toList := by decide
  rw [toList_message]
  exact kind.append ((prints_quote _).append (id.append (prints_quote _)))

/-- The line for records: one after the other. -/
def line (es : List ErrorRecord) : List Char := ("; ".intercalate (es.map message)).toList

def further : List ErrorRecord → List Char
  | [] => []
  | e :: es => ';' :: ' ' :: line (e :: es)

theorem line_cons (e : ErrorRecord) (es : List ErrorRecord) : line (e :: es) = e.message.toList ++ further es := by
  cases es with
  | nil => simp [line, further]
  | cons f es =>
    rw [line, List.map_cons, List.map_cons, String.intercalate_cons_cons, String.toList_append,
      String.toList_append, List.append_assoc]
    rfl

theorem line_inj {es fs : List ErrorRecord} (same : line es = line fs) : List.Forall₂ SameWords es fs := by
  have some (e : ErrorRecord) (es : List ErrorRecord) : line [] ≠ line (e :: es) := by
    rw [line_cons]
    intro empty
    exact message_ne_nil e (List.append_eq_nil_iff.mp empty.symm).1
  induction es generalizing fs with
  | nil =>
    cases fs with
    | nil => exact .nil
    | cons f fs => exact absurd same (some f fs)
  | cons e es ih =>
    cases fs with
    | nil => exact absurd same.symm (some e es)
    | cons f fs =>
      rw [line_cons, line_cons] at same
      obtain ⟨first, behind⟩ := message_append_inj same
      refine .cons first ?_
      cases es with
      | nil =>
        cases fs with
        | nil => exact .nil
        | cons g fs => cases behind
      | cons d es =>
        cases fs with
        | nil => cases behind
        | cons g fs => exact ih (List.cons.inj (List.cons.inj behind).2).2

theorem prints_line (es : List ErrorRecord) : Prints (line es) := by
  have separator : Prints [';', ' '] := by decide
  induction es with
  | nil => exact nofun
  | cons e es ih =>
    rw [line_cons]
    refine (prints_message e).append ?_
    cases es with
    | nil => exact nofun
    | cons f es => exact separator.append ih

end ErrorRecord

namespace Client.Refusal

open ErrorRecord

theorem toList_message {r : Refusal} {es : List ErrorRecord} (cause : r.cause = .records es) : r.message.toList = line es := by
  rw [message, cause]
  rfl

/-- Refusals that print the same have as many records, with the same class and id one after the other, and
what is printed has no control character. -/
theorem records_not_forged :
    (∀ (r s : Refusal) (es fs : List ErrorRecord), r.cause = .records es → s.cause = .records fs →
      r.message = s.message → List.Forall₂ SameWords es fs) ∧
    ∀ (r : Refusal) (es : List ErrorRecord), r.cause = .records es →
      ∀ c ∈ r.message.toList, isPrintable c = true ∧ ¬ IsControl c := by
  constructor
  · intro r s es fs first second same
    have lines : line es = line fs := by
      rw [← toList_message first, ← toList_message second, same]
    exact line_inj lines
  · intro r es cause c member
    rw [toList_message cause] at member
    have prints := prints_line es c member
    exact ⟨prints, not_isControl_of_isPrintable prints⟩

/-- An id that spells out a further record is still the id of one record. The class `permanent` prints the same
by its name and as a class of its own. -/
theorem records_not_forged_spelled :
    let spelled := "a\", id = \"b\"; kind = \"branch\", id = \"c\n"
    let one : Refusal := ⟨500, [], .records [⟨.permanent, spelled, []⟩]⟩
    let same : Refusal := ⟨502, [0x5B], .records [⟨.other "permanent", spelled, [("n", .null)]⟩]⟩
    let two : Refusal := ⟨500, [], .records [⟨.permanent, "a", []⟩, ⟨.branch, "c\n", []⟩]⟩
    one.message = same.message ∧ List.Forall₂ SameWords one.errors same.errors ∧ one.message ≠ two.message ∧
      ∀ c ∈ one.message.toList, ¬ IsControl c := by
  intro spelled one same two
  obtain ⟨told, prints⟩ := records_not_forged
  have alike : one.message = same.message := rfl
  have words : List.Forall₂ SameWords one.errors same.errors := told one same _ _ rfl rfl alike
  refine ⟨alike, words, fun equal => ?_, fun c member => (prints one _ rfl c member).2⟩
  have more : List.Forall₂ SameWords one.errors two.errors := told one two _ _ rfl rfl equal
  exact absurd more.length_eq (by decide)

end Client.Refusal

end TezosNode
