import TezosNode.Body.Feed
import TezosNode.Proofs.Body.Extent

namespace TezosNode.Body

open Decode

namespace Extent

theorem resume_start (buffer : Bytes) : start.resume buffer = start.scan buffer := rfl

/-- Going on behind a front in which nothing was found is beginning again. -/
theorem resume_append_of_unfinished {e : Extent} {front : Bytes}
    (unfinished : start.resume front = (e, .unfinished)) (back : Bytes) :
    e.resume (front ++ back) = start.resume (front ++ back) := by
  rw [resume_start] at unfinished
  have seen : e.seen = front.length := by
    rw [seen_of_unfinished unfinished]
    exact Nat.zero_add _
  rw [resume, seen, List.drop_left, resume_start, scan_append_of_unfinished unfinished]

theorem resume_of_unfinished {e after : Extent} {buffer : Bytes}
    (unfinished : e.resume buffer = (after, .unfinished)) :
    after.resume buffer = (after, .unfinished) := by
  have seen := seen_of_unfinished unfinished
  rw [List.length_drop] at seen
  rw [resume, List.drop_of_length_le (by omega)]
  rfl

theorem resume_of_bare {e after : Extent} {buffer : Bytes}
    (bare : e.resume buffer = (after, .bare)) : after.resume buffer = (after, .bare) := by
  obtain ⟨front, b, back, whole, unfinished, stop⟩ := front_of_bare bare
  have left : buffer.drop after.seen = b :: back := by
    rw [seen_of_unfinished unfinished, ← List.drop_drop, whole, List.drop_left]
  rw [resume, left, scan_cons, stop]

end Extent

namespace Feed

variable {α : Type}

theorem solid_of_bare {feed : Feed} {extent : Extent}
    (bare : feed.extent.resume feed.pending = (extent, .bare)) :
    feed.pending.all Ascii.isJsonBlank = false := by
  obtain ⟨front, b, back, whole, _, stop⟩ := Extent.front_of_bare bare
  have solid := Extent.solid_of_bare stop
  have there : b ∈ feed.pending.drop feed.extent.seen := by simp [whole]
  rw [List.all_eq_false]
  refine ⟨b, List.mem_of_mem_drop there, fun blank => ?_⟩
  rw [Ascii.isBlank_of_isJsonBlank blank] at solid
  cases solid

/-- What a look at the buffer comes to. -/
inductive Taken (d : Decoder α) (feed : Feed) : Answer α → Feed → Prop where
  | unfinished {extent} : feed.extent.resume feed.pending = (extent, .unfinished) →
      Taken d feed .waiting (if extent.isIdle then start else { feed with extent := extent })
  | cutOff {extent fault} : feed.extent.resume feed.pending = (extent, .bare) →
      d.ofFront feed.pending = .error fault → fault.category = .cutOff →
      Taken d feed .waiting { feed with extent := extent }
  | text {extent length a} : feed.extent.resume feed.pending = (extent, .ends length) →
      d.ofText (feed.pending.take length) = .ok a →
      Taken d feed (.value a) (keep (feed.pending.drop length))
  | bare {extent a rest} : feed.extent.resume feed.pending = (extent, .bare) →
      d.ofFront feed.pending = .ok (a, rest) → endsBare rest = true →
      Taken d feed (.value a) (keep rest)
  | refused {fault after} : after.closed = true → Taken d feed (.refused fault) after

theorem taken_of_take (d : Decoder α) {feed after : Feed} {answer : Answer α}
    (taken : feed.take d = (answer, after)) : Taken d feed answer after := by
  unfold Feed.take at taken
  split at taken
  next extent found =>
    cases taken
    exact .unfinished found
  next extent length found =>
    split at taken
    · next decoded =>
      cases taken
      exact .text found decoded
    · cases taken
      exact .refused rfl
  next extent found =>
    unfold takeBare at taken
    rw [if_neg (by simp [solid_of_bare found])] at taken
    split at taken
    · next read =>
      split at taken
      · next ends =>
        cases taken
        exact .bare found read ends
      · cases taken
        exact .refused rfl
    · next read =>
      split at taken
      · next cutOff =>
        cases taken
        exact .cutOff found read cutOff
      · cases taken
        exact .refused rfl

theorem take_of_waiting (d : Decoder α) {feed after : Feed} (waiting : feed.take d = (.waiting, after)) :
    after.take d = (.waiting, after) ∧ (feed.closed = false → after.closed = false) := by
  have fresh : start.take d = (.waiting, start) := rfl
  cases taken_of_take d waiting with
  | @unfinished extent unfinished =>
    by_cases idle : extent.isIdle = true
    · rw [if_pos idle]
      exact ⟨fresh, fun _ => rfl⟩
    · rw [if_neg idle, Feed.take, Extent.resume_of_unfinished unfinished]
      simp [idle]
  | cutOff bare refused cutOff =>
    refine ⟨?_, id⟩
    rw [Feed.take, Extent.resume_of_bare bare]
    simp [takeBare, solid_of_bare bare, refused, cutOff]

theorem pull_of_settled (d : Decoder α) {feed after : Feed} {answer : Answer α}
    (taken : feed.take d = (answer, after)) (settled : answer ≠ .waiting) (events : List Event) :
    feed.pull d events = (answer, after, events) := by
  cases answer with
  | waiting => exact absurd rfl settled
  | _ => cases events <;> rw [Feed.pull, taken]

theorem pull_nil (d : Decoder α) (feed : Feed) :
    feed.pull d [] = ((feed.take d).1, (feed.take d).2, []) := by
  rw [Feed.pull]
  rcases feed.take d with ⟨answer, after⟩
  cases answer <;> rfl

def onEvent (d : Decoder α) (feed : Feed) (events : List Event) : Event → Answer α × Feed × List Event
  | .chunk bytes => (feed.push bytes).pull d events
  | .finished | .cutOff => ((feed.finish d).1, (feed.finish d).2, events)
  | .failed reason => (.broken reason, feed.close, events)

theorem pull_of_waiting (d : Decoder α) {feed after : Feed} (waiting : feed.take d = (.waiting, after))
    (event : Event) (events : List Event) :
    feed.pull d (event :: events) = after.onEvent d events event := by
  cases event <;> rw [Feed.pull, waiting] <;> rfl

theorem finish_settled (d : Decoder α) (feed : Feed) : (feed.finish d).1 ≠ .waiting := by
  unfold finish
  split
  · exact nofun
  · split <;> exact nofun

theorem pull_append_of_settled (d : Decoder α) {feed after : Feed} {answer : Answer α}
    {events left : List Event} (pulled : feed.pull d events = (answer, after, left))
    (settled : answer ≠ .waiting) (more : List Event) :
    feed.pull d (events ++ more) = (answer, after, left ++ more) := by
  induction events generalizing feed with
  | nil =>
    rw [pull_nil] at pulled
    cases pulled
    exact pull_of_settled d rfl settled more
  | cons event events ih =>
    cases taken : feed.take d with
    | mk found kept =>
      by_cases waits : found = .waiting
      · subst waits
        rw [pull_of_waiting d taken] at pulled
        rw [List.cons_append, pull_of_waiting d taken]
        cases event with
        | chunk bytes => exact ih pulled
        | finished => cases pulled; rfl
        | cutOff => cases pulled; rfl
        | failed reason => cases pulled; rfl
      · rw [pull_of_settled d taken waits] at pulled
        cases pulled
        exact pull_of_settled d taken settled _

theorem pull_append_of_waiting (d : Decoder α) {feed after : Feed} {events left : List Event}
    (pulled : feed.pull d events = (.waiting, after, left)) (more : List Event) :
    left = [] ∧ feed.pull d (events ++ more) = after.pull d more ∧
      (feed.closed = false → after.closed = false) := by
  induction events generalizing feed with
  | nil =>
    rw [pull_nil, Prod.mk.injEq, Prod.mk.injEq] at pulled
    have taken : feed.take d = (.waiting, after) := Prod.ext pulled.1 pulled.2.1
    have again := take_of_waiting d taken
    refine ⟨pulled.2.2.symm, ?_, again.2⟩
    cases more with
    | nil => rw [List.append_nil, pull_nil, pull_nil, taken, again.1]
    | cons event more =>
      rw [List.nil_append, pull_of_waiting d taken, pull_of_waiting d again.1]
  | cons event events ih =>
    cases taken : feed.take d with
    | mk found kept =>
      by_cases waits : found = .waiting
      · subst waits
        rw [pull_of_waiting d taken] at pulled
        rw [List.cons_append, pull_of_waiting d taken]
        have opened := (take_of_waiting d taken).2
        cases event with
        | chunk bytes =>
          obtain ⟨none, same, stays⟩ := ih pulled
          exact ⟨none, same, fun closed => stays (opened closed)⟩
        | finished => exact absurd (congrArg Prod.fst pulled) (finish_settled d kept)
        | cutOff => exact absurd (congrArg Prod.fst pulled) (finish_settled d kept)
        | failed reason => cases pulled
      · rw [pull_of_settled d taken waits] at pulled
        cases pulled
        exact absurd rfl waits

theorem next_of_open (d : Decoder α) {feed : Feed} (opened : feed.closed = false)
    (events : List Event) : feed.next d events = feed.pull d events := by
  rw [next, opened]
  rfl

theorem answers_succ (d : Decoder α) {feed after : Feed} {events others : List Event}
    {answer : Answer α} (next : feed.next d events = (answer, after, others)) (calls : Nat) :
    feed.answers d events (calls + 1) = answer :: after.answers d others calls := by
  rw [answers, next]

def run (d : Decoder α) (feed : Feed) (events : List Event) : Nat → List (Answer α) × Feed × List Event
  | 0 => ([], feed, events)
  | calls + 1 =>
    let (answer, after, left) := feed.next d events
    let (answers, rest) := run d after left calls
    (answer :: answers, rest)

theorem run_succ (d : Decoder α) {feed after : Feed} {events left : List Event} {answer : Answer α}
    (next : feed.next d events = (answer, after, left)) (calls : Nat) :
    feed.run d events (calls + 1) =
      (answer :: (after.run d left calls).1, (after.run d left calls).2) := by
  rw [run, next]

theorem run_answers (d : Decoder α) (feed : Feed) (events : List Event) (calls : Nat) :
    (feed.run d events calls).1 = feed.answers d events calls := by
  induction calls generalizing feed events with
  | zero => rfl
  | succ calls ih =>
    rcases called : feed.next d events with ⟨answer, after, left⟩
    rw [run_succ d called, answers_succ d called, ih]

theorem run_add (d : Decoder α) {feed after : Feed} {events left : List Event}
    {told : List (Answer α)} {calls : Nat} (ran : feed.run d events calls = (told, after, left))
    (more : Nat) :
    feed.run d events (calls + more) =
      (told ++ (after.run d left more).1, (after.run d left more).2) := by
  induction calls generalizing feed events told with
  | zero =>
    cases ran
    rw [Nat.zero_add, List.nil_append]
  | succ calls ih =>
    rcases next : feed.next d events with ⟨answer, mid, others⟩
    rw [run_succ d next, Prod.mk.injEq] at ran
    have rest := ih (Prod.ext rfl ran.2)
    rw [Nat.add_right_comm, run_succ d next, rest, ← ran.1, List.cons_append]

theorem answers_add (d : Decoder α) {feed after : Feed} {events left : List Event}
    {told : List (Answer α)} {calls : Nat} (ran : feed.run d events calls = (told, after, left))
    (more : Nat) : feed.answers d events (calls + more) = told ++ after.answers d left more := by
  rw [← run_answers, run_add d ran, run_answers]

theorem run_of_closed (d : Decoder α) {feed : Feed} (closed : feed.closed = true)
    (events : List Event) (calls : Nat) :
    feed.run d events calls = (List.replicate calls .ended, feed, events) := by
  induction calls with
  | zero => rfl
  | succ calls ih => rw [run_succ d (next_of_closed d closed events), ih, List.replicate_succ]

theorem answers_of_closed (d : Decoder α) {feed : Feed} (closed : feed.closed = true)
    (events : List Event) (calls : Nat) :
    feed.answers d events calls = List.replicate calls .ended := by
  rw [← run_answers, run_of_closed d closed]

theorem answers_take (d : Decoder α) (feed : Feed) (events : List Event) (calls more : Nat) :
    (feed.answers d events (calls + more)).take calls = feed.answers d events calls := by
  induction calls generalizing feed events with
  | zero => rfl
  | succ calls ih =>
    rw [Nat.add_right_comm, answers, answers, List.take_succ_cons, ih]

theorem next_append_of_settled (d : Decoder α) {feed after : Feed} {answer : Answer α}
    {events left : List Event} (next : feed.next d events = (answer, after, left))
    (settled : answer ≠ .waiting) (more : List Event) :
    feed.next d (events ++ more) = (answer, after, left ++ more) := by
  cases closed : feed.closed with
  | true =>
    rw [next_of_closed d closed] at next ⊢
    cases next
    rfl
  | false =>
    rw [next_of_open d closed] at next ⊢
    exact pull_append_of_settled d next settled more

/-- A wait leaves nothing untaken, and the calls after it answer as those before it would have, had
all the events been there. -/
theorem answers_append_of_waiting (d : Decoder α) {feed after : Feed} {events left : List Event}
    (waits : feed.next d events = (.waiting, after, left)) (more : List Event) (calls : Nat) :
    left = [] ∧ feed.answers d (events ++ more) calls = after.answers d more calls := by
  cases closed : feed.closed with
  | true =>
    rw [next_of_closed d closed] at waits
    cases waits
  | false =>
    rw [next_of_open d closed] at waits
    obtain ⟨none, same, opened⟩ := pull_append_of_waiting d waits more
    refine ⟨none, ?_⟩
    cases calls with
    | zero => rfl
    | succ calls =>
      rw [answers, answers, next_of_open d closed, next_of_open d (opened closed), same]

end Feed

end TezosNode.Body
