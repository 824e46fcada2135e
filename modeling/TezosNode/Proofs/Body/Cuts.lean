import TezosNode.Proofs.Body.Endings

/-!
Bodies of any bytes, well formed or not, in which no bare value begins. The extent divides such a body
into pieces and a rest, and what the body tells depends on these alone, not on its cuts. A form feed is
blank to the extent and not to the reader. Before a piece it is dropped or refused as the cuts will have
it, and such bodies are left out.
-/

namespace TezosNode.Body

open Decode Json

variable {α : Type}

/-- The bytes are pieces that end, one after the other, and a rest in which no end is found. Nowhere does
a bare value begin. -/
inductive Divides : Bytes → List Bytes → Bytes → Prop where
  | rest {bytes after} : Extent.start.scan bytes = (after, .unfinished) → Divides bytes [] bytes
  | piece {bytes pieces rest after length} : Extent.start.scan bytes = (after, .ends length) →
      Divides (bytes.drop length) pieces rest →
      Divides bytes (bytes.take length :: pieces) rest

/-- Where more than blanks is there, the blanks before it are blanks to the reader. -/
def Led (part : Bytes) : Prop :=
  part.all Ascii.isBlank = true ∨ Blank (part.takeWhile Ascii.isBlank)

instance (part : Bytes) : Decidable (Led part) := inferInstanceAs (Decidable (_ ∨ _))

def Event.IsEnding : Event → Prop
  | .chunk _ => False
  | .finished | .cutOff | .failed _ => True

theorem Led.blank {front back : Bytes} (led : Led (front ++ back))
    (blanks : front.all Ascii.isBlank = true) (solid : ¬back.all Ascii.isBlank = true) :
    Blank front := by
  rcases led with all | leads
  · rw [List.all_append, Bool.and_eq_true] at all
    exact absurd all.2 solid
  · rw [List.takeWhile_append_of_pos (List.all_eq_true.mp blanks)] at leads
    have both : Blank front ∧ Blank (back.takeWhile Ascii.isBlank) := by
      simpa only [Blank, List.all_append, Bool.and_eq_true] using leads
    exact both.1

namespace Extent

def shift (n : Nat) (e : Extent) : Extent := { e with seen := e.seen + n }

def Report.shift (n : Nat) : Report → Report
  | ends length => ends (length + n)
  | unfinished => unfinished
  | bare => bare

def Step.shift (n : Nat) : Step → Step
  | next e => next (e.shift n)
  | stop e report => stop (e.shift n) (report.shift n)

theorem step_shift (n : Nat) (e : Extent) (b : UInt8) : (e.shift n).step b = (e.step b).shift n := by
  obtain ⟨seen, depth, quoted, escaped⟩ := e
  have later : seen + n + 1 = seen + 1 + n := Nat.add_right_comm ..
  simp only [step, stepQuoted, stepPlain, shift, later]
  repeat' split
  all_goals rfl

theorem scan_shift (n : Nat) (e : Extent) (bs : Bytes) :
    (e.shift n).scan bs = ((e.scan bs).1.shift n, (e.scan bs).2.shift n) := by
  induction bs generalizing e with
  | nil => rfl
  | cons b bs ih =>
    rw [scan_cons, scan_cons, step_shift]
    cases e.step b with
    | next e => exact ih e
    | stop e report => rfl

theorem step_blank {b : UInt8} (blank : Ascii.isBlank b = true) (seen : Nat) :
    (plain seen 0).step b = .next (plain (seen + 1) 0) := by
  have byte : b = 0x20 ∨ b = 0x09 ∨ b = 0x0A ∨ b = 0x0D ∨ b = 0x0C := by
    simpa [Ascii.isBlank, Ascii.isJsonBlank, or_assoc] using blank
  rcases byte with rfl | rfl | rfl | rfl | rfl <;> rfl

theorem scan_past_blank {front : Bytes} (blanks : front.all Ascii.isBlank = true) (back : Bytes) :
    start.scan (front ++ back) =
      ((start.scan back).1.shift front.length, (start.scan back).2.shift front.length) := by
  have passed (seen : Nat) :
      (plain seen 0).scan (front ++ back) = (plain (seen + front.length) 0).scan back := by
    induction front generalizing seen with
    | nil => rfl
    | cons b front ih =>
      have both : Ascii.isBlank b = true ∧ front.all Ascii.isBlank = true := by simpa using blanks
      rw [List.cons_append, scan_next (step_blank both.1 seen), ih both.2, List.length_cons,
        Nat.add_assoc, Nat.add_comm 1]
  rw [← scan_shift]
  exact passed 0

theorem ends_past_blank {front back : Bytes} {after : Extent} {length : Nat}
    (blanks : front.all Ascii.isBlank = true)
    (ends : start.scan (front ++ back) = (after, .ends length)) :
    ∃ stopped m, start.scan back = (stopped, .ends m) ∧ length = m + front.length := by
  rw [scan_past_blank blanks] at ends
  rcases found : start.scan back with ⟨stopped, report⟩
  rw [found] at ends
  cases report with
  | ends m =>
    cases ends
    exact ⟨stopped, m, rfl, rfl⟩
  | unfinished => cases ends
  | bare => cases ends

theorem unfinished_past_blank {front middle back : Bytes} {after : Extent}
    (blanks : front.all Ascii.isBlank = true)
    (unfinished : start.scan (front ++ (middle ++ back)) = (after, .unfinished)) :
    (start.scan middle).2 = .unfinished := by
  rw [scan_past_blank blanks] at unfinished
  rcases found : start.scan (middle ++ back) with ⟨stopped, report⟩
  rw [found] at unfinished
  cases report with
  | unfinished =>
    obtain ⟨before, none⟩ := front_of_unfinished found
    rw [none]
  | ends m => cases unfinished
  | bare => cases unfinished

theorem solid_of_ends {bytes : Bytes} {after : Extent} {length : Nat}
    (ends : start.scan bytes = (after, .ends length)) :
    ¬(bytes.take length).all Ascii.isBlank = true := by
  intro blanks
  have bound := (ends_bounds ends).2
  rw [← List.take_append_drop length bytes] at ends
  obtain ⟨stopped, m, found, same⟩ := ends_past_blank blanks ends
  have positive := (ends_bounds found).1
  simp only [start, Nat.zero_add] at bound positive
  rw [List.length_take_of_le bound] at same
  omega

end Extent

namespace Feed

/-- An open feed and chunks that bring it to these bytes. -/
structure Brings (feed : Feed) (chunks : List Bytes) (bytes : Bytes) : Prop where
  tracks : feed.Tracks
  opened : feed.closed = false
  whole : feed.pending ++ chunks.flatten = bytes

theorem take_unfinished (d : Decoder α) {feed : Feed} (tracks : feed.Tracks) {after : Extent}
    (unfinished : Extent.start.scan feed.pending = (after, .unfinished)) :
    ∃ (kept : Feed) (front : Bytes), feed.take d = (.waiting, kept) ∧ kept.Tracks ∧
      front.all Ascii.isBlank = true ∧ feed.pending = front ++ kept.pending := by
  have waiting := take_of_unfinished d tracks unfinished
  obtain ⟨keeps, front, blanks, split⟩ := take_drops d tracks waiting
  exact ⟨_, front, waiting, keeps, blanks, split⟩

/-- Chunks are taken in until an end is found in the buffer or there are no more of them. Nothing but
blanks is dropped. -/
theorem pull_fills (d : Decoder α) (events : List Event) {feed : Feed} (chunks : List Bytes)
    (tracks : feed.Tracks) :
    ∃ (kept : Feed) (others : List Bytes) (front : Bytes), kept.Tracks ∧
      front.all Ascii.isBlank = true ∧
      feed.pending ++ chunks.flatten = front ++ (kept.pending ++ others.flatten) ∧
      feed.pull d (chunks.map .chunk ++ events) = kept.pull d (others.map .chunk ++ events) ∧
      (others = [] ∨ (Extent.start.scan kept.pending).2 ≠ .unfinished) := by
  induction chunks generalizing feed with
  | nil => exact ⟨feed, [], [], tracks, rfl, rfl, rfl, .inl rfl⟩
  | cons chunk chunks ih =>
    by_cases unfinished : (Extent.start.scan feed.pending).2 = .unfinished
    · obtain ⟨kept, front, waiting, keeps, blanks, split⟩ :=
        take_unfinished d tracks (Prod.ext rfl unfinished)
      obtain ⟨last, others, more, tracks, blank, rest, pulled, filled⟩ := ih (keeps.push chunk)
      refine ⟨last, others, front ++ more, tracks, ?_, ?_, ?_, filled⟩
      · rw [List.all_append, blanks, blank, Bool.and_self]
      · rw [List.append_assoc, ← rest, split, push, List.flatten_cons]
        simp only [List.append_assoc]
      · rw [List.map_cons, List.cons_append, pull_of_waiting d waiting]
        exact pulled
    · exact ⟨feed, chunk :: chunks, [], tracks, rfl, rfl, rfl, .inr unfinished⟩

theorem next_piece (d : Decoder α) (events : List Event) {feed : Feed} {chunks : List Bytes}
    {bytes : Bytes} {after : Extent} {length : Nat} (brings : feed.Brings chunks bytes)
    (ends : Extent.start.scan bytes = (after, .ends length)) (led : Led (bytes.take length)) :
    ∃ (pending : Bytes) (others : List Bytes), (keep pending).Brings others (bytes.drop length) ∧
      (∀ a, d.ofText (bytes.take length) = .ok a →
        feed.next d (chunks.map .chunk ++ events) =
          (.value a, keep pending, others.map .chunk ++ events)) ∧
      ∀ fault, d.ofText (bytes.take length) = .error fault →
        feed.next d (chunks.map .chunk ++ events) =
          (.refused fault, (keep pending).close, others.map .chunk ++ events) := by
  obtain ⟨kept, others, front, tracks, blanks, split, pulled, filled⟩ :=
    pull_fills d events chunks brings.tracks
  obtain rfl := brings.whole.symm.trans split
  -- what was dropped in front is blank, so the end is where it was, less so many bytes
  obtain ⟨stopped, m, found, rfl⟩ := Extent.ends_past_blank blanks ends
  have there : Extent.start.scan kept.pending = (stopped, .ends m) := by
    rcases filled with rfl | settled
    · simpa using found
    · exact (Extent.scan_append_of_found rfl settled _).symm.trans found
  have bound : m ≤ kept.pending.length := by
    simpa [Extent.start] using (Extent.ends_bounds there).2
  have piece : (front ++ (kept.pending ++ others.flatten)).take (m + front.length) =
      front ++ kept.pending.take m := by
    rw [Nat.add_comm, List.take_length_add_append, List.take_append_of_le_length bound]
  have left : (front ++ (kept.pending ++ others.flatten)).drop (m + front.length) =
      kept.pending.drop m ++ others.flatten := by
    rw [Nat.add_comm, List.drop_length_add_append, List.drop_append_of_le_length bound]
  have blank : Blank front := by
    rw [piece] at led
    exact led.blank blanks (Extent.solid_of_ends there)
  refine ⟨kept.pending.drop m, others, ⟨tracks_keep _, rfl, left.symm⟩, ?_⟩
  have taken := take_of_ends d tracks there
  rw [next_of_open d brings.opened, pulled, piece, d.ofText_blank blank]
  refine ⟨fun a decoded => ?_, fun fault decoded => ?_⟩
  · rw [decoded] at taken
    exact pull_of_settled d taken (by simp) _
  · rw [decoded] at taken
    exact pull_of_settled d taken (by simp) _

theorem finish_drops (d : Decoder α) {feed kept : Feed} {front : Bytes}
    (blanks : front.all Ascii.isBlank = true) (split : feed.pending = front ++ kept.pending)
    (led : Led feed.pending) : (kept.finish d).1 = (feed.finish d).1 := by
  rw [split] at led
  have all : feed.pending.all Ascii.isBlank = kept.pending.all Ascii.isBlank := by
    rw [split, List.all_append, blanks, Bool.true_and]
  unfold finish
  rw [all]
  split
  · rfl
  · next solid =>
    rw [split, d.ofText_blank (led.blank blanks solid)]

theorem onEvent_drops (d : Decoder α) {ending : Event} (final : ending.IsEnding)
    (later : List Event) {feed kept : Feed} {front : Bytes}
    (blanks : front.all Ascii.isBlank = true) (split : feed.pending = front ++ kept.pending)
    (led : Led feed.pending) :
    ∃ last : Feed, last.closed = true ∧
      kept.onEvent d later ending = ((feed.onEvent d later ending).1, last, later) := by
  have same := finish_drops d blanks split led
  cases ending with
  | chunk bytes => exact final.elim
  | finished => exact ⟨(kept.finish d).2, finish_closes d kept, by simp only [onEvent, same]⟩
  | cutOff => exact ⟨(kept.finish d).2, finish_closes d kept, by simp only [onEvent, same]⟩
  | failed reason => exact ⟨kept.close, rfl, rfl⟩

/-- What a body tells at its ending depends on the rest, whatever the cuts. -/
theorem next_rest (d : Decoder α) {ending : Event} (final : ending.IsEnding) (later : List Event)
    {feed : Feed} {chunks : List Bytes} {bytes : Bytes} {after : Extent}
    (brings : feed.Brings chunks bytes)
    (unfinished : Extent.start.scan bytes = (after, .unfinished)) (led : Led bytes) :
    ∃ last : Feed, last.closed = true ∧
      feed.next d (chunks.map .chunk ++ ending :: later) =
        (((keep bytes).onEvent d later ending).1, last, later) := by
  obtain ⟨kept, others, front, tracks, blanks, split, pulled, filled⟩ :=
    pull_fills d (ending :: later) chunks brings.tracks
  obtain rfl := brings.whole.symm.trans split
  have waits : (Extent.start.scan kept.pending).2 = .unfinished :=
    Extent.unfinished_past_blank blanks unfinished
  obtain rfl := filled.resolve_right (not_not_intro waits)
  obtain ⟨last, more, waiting, _, blank, rest⟩ := take_unfinished d tracks (Prod.ext rfl waits)
  have dropped : (front ++ more).all Ascii.isBlank = true := by
    rw [List.all_append, blanks, blank, Bool.and_self]
  rw [next_of_open d brings.opened, pulled, List.map_nil, List.nil_append, pull_of_waiting d waiting]
  exact onEvent_drops d final later dropped (by simp [keep, rest]) led

theorem answers_alike (d : Decoder α) {ending : Event} (final : ending.IsEnding)
    (later : List Event) {bytes rest : Bytes} {pieces : List Bytes}
    (divides : Divides bytes pieces rest) (led : ∀ part ∈ rest :: pieces, Led part)
    {first second : Feed} {chunks others : List Bytes} (one : first.Brings chunks bytes)
    (two : second.Brings others bytes) (calls : Nat) :
    first.answers d (chunks.map .chunk ++ ending :: later) calls =
      second.answers d (others.map .chunk ++ ending :: later) calls := by
  -- the induction is on the pieces of the bytes, which the two feeds share, and not on their chunks
  induction divides generalizing first second chunks others calls with
  | rest unfinished =>
    cases calls with
    | zero => rfl
    | succ calls =>
      have led := led _ List.mem_cons_self
      obtain ⟨last, closed, called⟩ := next_rest d final later one unfinished led
      obtain ⟨other, shut, alike⟩ := next_rest d final later two unfinished led
      rw [answers_succ d called, answers_succ d alike, answers_of_closed d closed,
        answers_of_closed d shut]
  | @piece bytes pieces rest after length ends _ ih =>
    cases calls with
    | zero => rfl
    | succ calls =>
      have leads := led _ (List.mem_cons_of_mem _ List.mem_cons_self)
      have ledLater : ∀ part ∈ rest :: pieces, Led part := by
        intro part member
        apply led part
        simp only [List.mem_cons] at member ⊢
        exact member.imp_right .inr
      obtain ⟨pending, parts, left, value, refusal⟩ := next_piece d (ending :: later) one ends leads
      obtain ⟨other, cuts, right, alike, same⟩ := next_piece d (ending :: later) two ends leads
      cases decoded : d.ofText (bytes.take length) with
      | ok a => rw [answers_succ d (value a decoded), answers_succ d (alike a decoded), ih ledLater left right]
      | error fault =>
        rw [answers_succ d (refusal fault decoded), answers_succ d (same fault decoded),
          answers_of_closed d rfl, answers_of_closed d rfl]

/-- Where a body is cut makes no difference. Two bodies of the same bytes that end alike answer alike,
whatever the bytes are, so long as no bare value begins in them and no form feed leads a piece or the
rest. -/
theorem answers_of_any_cuts (d : Decoder α) {bytes rest : Bytes} {pieces : List Bytes}
    (divides : Divides bytes pieces rest) (led : ∀ part ∈ rest :: pieces, Led part)
    {chunks others : List Bytes} (first : chunks.flatten = bytes) (second : others.flatten = bytes)
    {ending : Event} (final : ending.IsEnding) (later : List Event) (calls : Nat) :
    start.answers d (chunks.map .chunk ++ ending :: later) calls =
      start.answers d (others.map .chunk ++ ending :: later) calls :=
  answers_alike d final later divides led ⟨tracks_keep [], rfl, first⟩ ⟨tracks_keep [], rfl, second⟩
    calls

/-- A list and then a part of one that no closer could end well, cut off. -/
theorem answers_of_any_cuts_list :
    start.answers Decoder.text.list
        [.chunk [0x20, 0x5B], .chunk [0x22, 0x0C], .chunk [0x22, 0x5D, 0x0A], .chunk [0x5B, 0x7D],
          .cutOff] 3 =
      start.answers Decoder.text.list
        [.chunk [0x20, 0x5B, 0x22, 0x0C, 0x22], .chunk [], .chunk [0x5D], .chunk [0x0A, 0x5B],
          .chunk [0x7D], .cutOff] 3 := by
  have divides : Divides [0x20, 0x5B, 0x22, 0x0C, 0x22, 0x5D, 0x0A, 0x5B, 0x7D]
      [[0x20, 0x5B, 0x22, 0x0C, 0x22, 0x5D], [0x0A, 0x5B, 0x7D]] [] :=
    @Divides.piece _ _ [] _ 6 rfl
      (@Divides.piece [0x0A, 0x5B, 0x7D] [] [] _ 3 rfl (@Divides.rest [] _ rfl))
  have first : [[0x20, 0x5B], [0x22, 0x0C], [0x22, 0x5D, 0x0A], [0x5B, 0x7D]].flatten =
      ([0x20, 0x5B, 0x22, 0x0C, 0x22, 0x5D, 0x0A, 0x5B, 0x7D] : Bytes) := rfl
  have second : [[0x20, 0x5B, 0x22, 0x0C, 0x22], [], [0x5D], [0x0A, 0x5B], [0x7D]].flatten =
      ([0x20, 0x5B, 0x22, 0x0C, 0x22, 0x5D, 0x0A, 0x5B, 0x7D] : Bytes) := rfl
  have final : Event.cutOff.IsEnding := trivial
  exact answers_of_any_cuts Decoder.text.list divides (by decide) first second final [] 3

/-- A form feed and an object after it: the form feed is dropped where a chunk ends with it, and refused
where none does. -/
theorem form_feed_follows_cuts :
    Divides [0x0C, 0x7B, 0x7D] [[0x0C, 0x7B, 0x7D]] [] ∧
      start.answers Decoder.any [.chunk [0x0C], .chunk [0x7B, 0x7D], .finished] 2 =
        [.value (.object []), .ended] ∧
      start.answers Decoder.any [.chunk [0x0C, 0x7B, 0x7D], .finished] 2 =
        [.refused (.malformed .noValue), .ended] :=
  ⟨@Divides.piece _ [] [] _ 3 rfl (@Divides.rest [] _ rfl), rfl, rfl⟩

end Feed

end TezosNode.Body
