import TezosNode.Proofs.Body.Resumption

/-!
How a scan stands in the bytes it has passed. Its depth is the number of brackets opened outside quotes
less the number of those closed there, so that no subtraction is ever cut off at zero. What it knows
depends on the bytes alone, and not on the pieces they came in.
-/

namespace TezosNode.Body.Extent

inductive Place where
  | outside
  | inside
  | marked
  deriving DecidableEq, Repr

namespace Place

def after : Place → UInt8 → Place
  | outside, b => if b == Ascii.quote then inside else outside
  | inside, b => if b == Ascii.backslash then marked else if b == Ascii.quote then outside else inside
  | marked, _ => inside

def change : Place → UInt8 → Int
  | outside, b => if isOpener b then 1 else if isCloser b then -1 else 0
  | inside, _ => 0
  | marked, _ => 0

def through (place : Place) (bs : Bytes) : Place := bs.foldl after place

/-- The openers less the closers that stand outside quotes. There may be more closers than openers. -/
def nesting : Place → Bytes → Int
  | _, [] => 0
  | place, b :: bs => place.change b + (place.after b).nesting bs

end Place

/-- The extent knows the place of the next byte. -/
structure Knows (e : Extent) (place : Place) : Prop where
  quoted : e.quoted = (place != .outside)
  escaped : e.escaped = (place == .marked)

theorem Outside.knows {e : Extent} (outside : e.Outside) : Knows e .outside :=
  ⟨outside.unquoted, outside.unescaped⟩

theorem Knows.start : Knows start .outside := ⟨rfl, rfl⟩

/-- A closer outside quotes takes one from the depth only where a bracket stays open. -/
theorem Knows.plain {e after : Extent} {b : UInt8} (knows : Knows e .outside)
    (next : e.step b = .next after) :
    Knows after (Place.outside.after b) ∧ (after.depth : Int) = e.depth + Place.outside.change b := by
  have moved := moved_of_next ⟨knows.quoted, knows.escaped⟩ next
  by_cases quote : b = Ascii.quote
  · obtain ⟨same, quoted, unescaped⟩ := moved.quote quote
    subst quote
    exact ⟨⟨quoted, unescaped⟩, by rw [same]; exact (Int.add_zero _).symm⟩
  rw [Place.after, if_neg (by simpa using quote), Place.change]
  by_cases opener : isOpener b = true
  · obtain ⟨deeper, outside⟩ := moved.opener opener
    rw [if_pos opener, deeper]
    exact ⟨outside.knows, Int.natCast_succ _⟩
  rw [if_neg opener]
  by_cases closer : isCloser b = true
  · obtain ⟨less, outside, _⟩ := moved.closer closer
    rw [if_pos closer, less]
    exact ⟨outside.knows, by omega⟩
  · obtain ⟨same, outside, _⟩ := moved.ordinary ⟨quote, by simpa using opener, by simpa using closer⟩
    rw [if_neg closer, same]
    exact ⟨outside.knows, (Int.add_zero _).symm⟩

theorem Knows.quotes {e after : Extent} {place : Place} {b : UInt8} (knows : Knows e place)
    (inside : place ≠ .outside) (next : e.step b = .next after) :
    Knows after (place.after b) ∧ (after.depth : Int) = e.depth + place.change b := by
  obtain ⟨quoted, escaped⟩ := knows
  have quotes : e.quoted = true := by rw [quoted, bne_iff_ne]; exact inside
  obtain ⟨same, passes, goesOn, closes⟩ := next_quoted quotes next
  rw [same]
  cases place with
  | outside => exact absurd rfl inside
  | marked => exact ⟨⟨(passes escaped).1, (passes escaped).2⟩, (Int.add_zero _).symm⟩
  | inside =>
    refine ⟨?_, (Int.add_zero _).symm⟩
    by_cases quote : b = Ascii.quote
    · have outside := (closes escaped quote).1
      subst quote
      exact outside.knows
    · obtain ⟨stays, marks⟩ := goesOn escaped quote
      by_cases backslash : b = Ascii.backslash
      · rw [Place.after, if_pos (by simpa using backslash)]
        exact ⟨stays, by rw [marks, decide_eq_true backslash]; rfl⟩
      · rw [Place.after, if_neg (by simpa using backslash), if_neg (by simpa using quote)]
        exact ⟨stays, by rw [marks, decide_eq_false backslash]; rfl⟩

theorem Knows.step {e after : Extent} {place : Place} {b : UInt8} (knows : Knows e place)
    (next : e.step b = .next after) :
    Knows after (place.after b) ∧ (after.depth : Int) = e.depth + place.change b := by
  by_cases outside : place = .outside
  · subst outside
    exact knows.plain next
  · exact knows.quotes outside next

theorem Knows.scan {e after : Extent} {place : Place} {bs : Bytes} (knows : Knows e place)
    (unfinished : e.scan bs = (after, .unfinished)) :
    Knows after (place.through bs) ∧ (after.depth : Int) = e.depth + place.nesting bs := by
  induction bs generalizing e place with
  | nil =>
    cases unfinished
    exact ⟨knows, (Int.add_zero _).symm⟩
  | cons b bs ih =>
    rw [scan_cons] at unfinished
    cases step : e.step b with
    | next middle =>
      rw [step] at unfinished
      obtain ⟨known, deeper⟩ := knows.step step
      obtain ⟨last, total⟩ := ih known unfinished
      refine ⟨last, ?_⟩
      rw [total, deeper, Place.nesting, Int.add_assoc]
    | stop stopped report =>
      rw [step] at unfinished
      cases unfinished
      exact absurd rfl (settled_of_stop step)

-- Brackets in quotes do not count, and an escaped quote closes nothing.
example : Place.outside.nesting [0x7B, 0x22, 0x7D, 0x5C, 0x22, 0x5D] = 1 := rfl

/-- Bytes in which nothing is found, and all that is known after them. -/
structure Passed (front : Bytes) (e : Extent) : Prop where
  afresh : start.resume front = (e, .unfinished)
  seen : e.seen = front.length
  depth : (e.depth : Int) = Place.outside.nesting front
  knows : Knows e (Place.outside.through front)

theorem passed_of_unfinished {front : Bytes} {e : Extent}
    (unfinished : start.resume front = (e, .unfinished)) : Passed front e := by
  have seen : e.seen = start.seen + front.length := seen_of_unfinished unfinished
  have depth : (e.depth : Int) = start.depth + Place.outside.nesting front :=
    (Knows.start.scan unfinished).2
  exact ⟨unfinished, seen.trans (Nat.zero_add _), depth.trans (Int.zero_add _),
    (Knows.start.scan unfinished).1⟩

theorem Passed.front {front whole : Bytes} {e : Extent} (passed : Passed whole e)
    (part : front <+: whole) : ∃ before, Passed front before := by
  obtain ⟨back, rfl⟩ := part
  obtain ⟨before, unfinished⟩ := front_of_unfinished passed.afresh
  exact ⟨before, passed_of_unfinished unfinished⟩

end TezosNode.Body.Extent
