import TezosNode.Proofs.Body.Texts

/-!
How the answers of a body end. The first answer that is not a value is the last one that tells
anything. The end is told only of a body that is nothing but the texts of its values and blanks, and
that stopped after them.
-/

namespace TezosNode.Body

open Decode

variable {α : Type}

/-- Bytes that are the texts of these values, with blanks between them and after. -/
inductive Written (d : Decoder α) : List α → Bytes → Prop where
  | nil : Written d [] []
  | blank {values bytes rest} : bytes.all Ascii.isBlank = true → Written d values rest →
      Written d values (bytes ++ rest)
  | text {a values text rest} : d.ofText text = .ok a → Written d values rest →
      Written d (a :: values) (text ++ rest)
  /-- A bare value ends with the bytes that are there, even where more follow later. -/
  | bare {a values text there later} : d.ofFront (text ++ there) = .ok (a, there) →
      Written d values (there ++ later) → Written d (a :: values) (text ++ (there ++ later))

/-- After some bytes there are chunks and then an end, the proper one or not, and the bytes are the
texts of the values. -/
def EndsCleanly (d : Decoder α) (values : List α) (before : Bytes) (body : List Event) : Prop :=
  ∃ (chunks : List Bytes) (ending : Event) (rest : List Event),
    body = chunks.map .chunk ++ ending :: rest ∧ (ending = .finished ∨ ending = .cutOff) ∧
      Written d values (before ++ chunks.flatten)

/-- Bytes that begin with a text of the value, after blanks. A bare value is read together with what is
there after it. -/
def Heads (d : Decoder α) (a : α) (bytes : Bytes) : Prop :=
  ∃ blanks text rest, bytes = blanks ++ (text ++ rest) ∧ blanks.all Ascii.isBlank = true ∧
    (d.ofText text = .ok a ∨ ∃ there later, rest = there ++ later ∧
      d.ofFront (text ++ there) = .ok (a, there))

def Leads (d : Decoder α) (told : List α) (before after : Bytes) : Prop :=
  ∀ values later, Written d values (after ++ later) → Written d (told ++ values) (before ++ later)

theorem Heads.more {d : Decoder α} {a : α} {bytes : Bytes} (heads : Heads d a bytes) (more : Bytes) :
    Heads d a (bytes ++ more) := by
  obtain ⟨blanks, text, rest, rfl, all, read⟩ := heads
  refine ⟨blanks, text, rest ++ more, by simp, all, read.imp_right ?_⟩
  rintro ⟨there, later, rfl, found⟩
  exact ⟨there, later ++ more, List.append_assoc .., found⟩

theorem Heads.behind {d : Decoder α} {a : α} {bytes blanks : Bytes} (heads : Heads d a bytes)
    (all : blanks.all Ascii.isBlank = true) : Heads d a (blanks ++ bytes) := by
  obtain ⟨others, text, rest, rfl, more, read⟩ := heads
  exact ⟨blanks ++ others, text, rest, by simp, by rw [List.all_append, all, more]; rfl, read⟩

namespace Feed

theorem take_closes (d : Decoder α) {feed after : Feed} {answer : Answer α}
    (taken : feed.take d = (answer, after)) (settled : answer ≠ .waiting)
    (last : ∀ a, answer ≠ .value a) : after.closed = true := by
  cases taken_of_take d taken with
  | unfinished | cutOff => exact absurd rfl settled
  | text | bare => exact absurd rfl (last _)
  | refused closed => exact closed

theorem finish_closes (d : Decoder α) (feed : Feed) : (feed.finish d).2.closed = true := by
  unfold finish
  split
  · rfl
  · split <;> rfl

/-- How a feed comes to an answer: while it waits it takes chunks in, until its buffer or the end of the
body settles one. -/
inductive Pulls (d : Decoder α) : Feed → List Event → Answer α → Feed → List Event → Prop where
  | taken {feed events answer after} : feed.take d = (answer, after) → answer ≠ .waiting →
      Pulls d feed events answer after events
  | chunk {feed kept bytes events answer after left} : feed.take d = (.waiting, kept) →
      Pulls d (kept.push bytes) events answer after left →
      Pulls d feed (.chunk bytes :: events) answer after left
  | finish {feed kept ending events answer after} : feed.take d = (.waiting, kept) →
      (ending = .finished ∨ ending = .cutOff) → kept.finish d = (answer, after) →
      Pulls d feed (ending :: events) answer after events
  | failed {feed kept reason events} : feed.take d = (.waiting, kept) →
      Pulls d feed (.failed reason :: events) (.broken reason) kept.close events

theorem pulls_of_pull (d : Decoder α) {feed after : Feed} {answer : Answer α}
    {events left : List Event} (pulled : feed.pull d events = (answer, after, left))
    (settled : answer ≠ .waiting) : Pulls d feed events answer after left := by
  induction events generalizing feed with
  | nil =>
    rw [pull_nil, Prod.mk.injEq, Prod.mk.injEq] at pulled
    obtain ⟨first, second, rfl⟩ := pulled
    exact .taken (Prod.ext first second) settled
  | cons event events ih =>
    rcases taken : feed.take d with ⟨found, kept⟩
    by_cases waits : found = .waiting
    · subst waits
      rw [pull_of_waiting d taken] at pulled
      cases event with
      | chunk bytes => exact .chunk taken (ih pulled)
      | finished =>
        cases pulled
        exact .finish taken (.inl rfl) rfl
      | cutOff =>
        cases pulled
        exact .finish taken (.inr rfl) rfl
      | failed reason =>
        cases pulled
        exact .failed taken
    · rw [pull_of_settled d taken waits] at pulled
      cases pulled
      exact .taken taken waits

theorem Pulls.closes {d : Decoder α} {feed after : Feed} {answer : Answer α}
    {events left : List Event} (pulls : Pulls d feed events answer after left)
    (last : ∀ a, answer ≠ .value a) : after.closed = true := by
  induction pulls with
  | taken taken settled => exact take_closes d taken settled last
  | chunk _ _ ih => exact ih last
  | @finish _ kept _ _ _ _ _ _ finished =>
    have closed := finish_closes d kept
    rwa [finished] at closed
  | failed _ => rfl

theorem next_closes (d : Decoder α) {feed after : Feed} {answer : Answer α} {events left : List Event}
    (called : feed.next d events = (answer, after, left)) (settled : answer ≠ .waiting)
    (last : ∀ a, answer ≠ .value a) : after.closed = true := by
  cases closed : feed.closed with
  | true =>
    rw [next_of_closed d closed] at called
    cases called
    exact closed
  | false =>
    rw [next_of_open d closed] at called
    exact (pulls_of_pull d called settled).closes last

theorem answers_of_last (d : Decoder α) {feed : Feed} {events : List Event} {values : List α}
    {answer : Answer α} (settled : answer ≠ .waiting) (last : ∀ a, answer ≠ .value a)
    (told : feed.answers d events (values.length + 1) = values.map .value ++ [answer]) (more : Nat) :
    feed.answers d events (values.length + 1 + more) =
      values.map .value ++ answer :: List.replicate more .ended := by
  induction values generalizing feed events with
  | nil =>
    rcases called : feed.next d events with ⟨found, after, left⟩
    rw [List.length_nil, answers_succ d called, List.map_nil, List.nil_append, List.cons.injEq] at told
    obtain ⟨rfl, _⟩ := told
    have closed := next_closes d called settled last
    rw [List.length_nil, Nat.add_right_comm, answers_succ d called, answers_of_closed d closed,
      Nat.zero_add, List.map_nil, List.nil_append]
  | cons value values ih =>
    rcases called : feed.next d events with ⟨found, after, left⟩
    rw [List.length_cons, answers_succ d called, List.map_cons, List.cons_append,
      List.cons.injEq] at told
    obtain ⟨rfl, told⟩ := told
    rw [List.length_cons, Nat.add_right_comm _ 1 more, answers_succ d called, ih told,
      List.map_cons, List.cons_append]

theorem take_drops (d : Decoder α) {feed after : Feed} (tracks : feed.Tracks)
    (taken : feed.take d = (.waiting, after)) :
    after.Tracks ∧ ∃ blanks, blanks.all Ascii.isBlank = true ∧ feed.pending = blanks ++ after.pending := by
  have whole := (List.append_nil feed.pending).symm
  cases taken_of_take d taken with
  | @unfinished extent unfinished =>
    rw [tracks.resume] at unfinished
    by_cases idle : extent.isIdle = true
    · rw [if_pos idle]
      exact ⟨⟨[], [], rfl, rfl⟩, feed.pending, (Extent.blank_of_idle unfinished idle).2, whole⟩
    · rw [if_neg idle]
      exact ⟨⟨feed.pending, [], whole, unfinished⟩, [], rfl, rfl⟩
  | cutOff bare =>
    rw [tracks.resume] at bare
    obtain ⟨front, b, back, split, found, _⟩ := Extent.front_of_bare bare
    exact ⟨⟨front, b :: back, split, found⟩, [], rfl, rfl⟩

theorem take_waits (d : Decoder α) {feed after : Feed} (tracks : feed.Tracks)
    (taken : feed.take d = (.waiting, after)) :
    after.Tracks ∧ Leads d [] feed.pending after.pending := by
  obtain ⟨kept, blanks, all, whole⟩ := take_drops d tracks taken
  refine ⟨kept, fun values later written => ?_⟩
  rw [whole, List.append_assoc]
  exact .blank all written

theorem take_reads (d : Decoder α) {feed after : Feed} {a : α}
    (taken : feed.take d = (.value a, after)) :
    after.closed = false ∧ after.Tracks ∧ ∃ text, feed.pending = text ++ after.pending ∧
      (d.ofText text = .ok a ∨ d.ofFront (text ++ after.pending) = .ok (a, after.pending)) := by
  cases taken_of_take d taken with
  | @text _ length _ _ decoded =>
    exact ⟨rfl, tracks_keep _, _, (List.take_append_drop length feed.pending).symm, .inl decoded⟩
  | bare _ found _ =>
    obtain ⟨front, whole⟩ := Decoder.ofFront_suffix found
    rw [whole] at found
    exact ⟨rfl, tracks_keep _, front, whole, .inr found⟩

theorem take_gives (d : Decoder α) {feed after : Feed} {a : α}
    (taken : feed.take d = (.value a, after)) :
    after.closed = false ∧ after.Tracks ∧ Leads d [a] feed.pending after.pending := by
  obtain ⟨opened, tracks, text, whole, read⟩ := take_reads d taken
  refine ⟨opened, tracks, fun values later written => ?_⟩
  rw [whole, List.append_assoc]
  rcases read with decoded | found
  · exact .text decoded written
  · exact .bare found written

theorem take_not_ended (d : Decoder α) (feed : Feed) : (feed.take d).1 ≠ .ended := by
  intro ended
  cases taken_of_take d (Prod.ext ended rfl)

theorem finish_written (d : Decoder α) (feed : Feed) :
    ((feed.finish d).1 = .ended → Written d [] feed.pending) ∧
      ∀ a, (feed.finish d).1 = .value a → Written d [a] feed.pending := by
  have whole := List.append_nil feed.pending
  unfold finish
  split
  · next blanks =>
    exact ⟨fun _ => whole ▸ .blank blanks .nil, nofun⟩
  · split
    · next value decoded =>
      refine ⟨nofun, fun a same => ?_⟩
      cases same
      exact whole ▸ .text decoded .nil
    · exact ⟨nofun, nofun⟩

theorem endsCleanly_push {d : Decoder α} {values : List α} {feed kept : Feed} {bytes : Bytes}
    {events : List Event} (leads : Leads d [] feed.pending kept.pending)
    (clean : EndsCleanly d values (kept.push bytes).pending events) :
    EndsCleanly d values feed.pending (.chunk bytes :: events) := by
  obtain ⟨chunks, ending, rest, rfl, proper, written⟩ := clean
  refine ⟨bytes :: chunks, ending, rest, rfl, proper, leads values _ ?_⟩
  simpa [push] using written

theorem endsCleanly_finish {d : Decoder α} {values : List α} {feed kept : Feed} {ending : Event}
    (leads : Leads d [] feed.pending kept.pending) (proper : ending = .finished ∨ ending = .cutOff)
    (written : Written d values kept.pending) (events : List Event) :
    EndsCleanly d values feed.pending (ending :: events) := by
  refine ⟨[], ending, events, rfl, proper, leads values [] ?_⟩
  simpa using written

theorem Pulls.ended {d : Decoder α} {feed after : Feed} {events left : List Event}
    (pulls : Pulls d feed events .ended after left) (tracks : feed.Tracks) :
    EndsCleanly d [] feed.pending events := by
  generalize same : Answer.ended = answer at pulls
  induction pulls with
  | taken taken _ => exact absurd ((congrArg Prod.fst taken).trans same.symm) (take_not_ended d _)
  | chunk taken _ ih =>
    obtain ⟨tracks, leads⟩ := take_waits d tracks taken
    exact endsCleanly_push leads (ih (tracks.push _) same)
  | finish taken proper finished =>
    have written := (finish_written d _).1 ((congrArg Prod.fst finished).trans same.symm)
    exact endsCleanly_finish (take_waits d tracks taken).2 proper written _
  | failed _ => cases same

theorem Pulls.gives {d : Decoder α} {feed after : Feed} {a : α} {events left : List Event}
    (pulls : Pulls d feed events (.value a) after left) (tracks : feed.Tracks) :
    (after.closed = true ∧ EndsCleanly d [a] feed.pending events) ∨
      (after.closed = false ∧ after.Tracks ∧ ∃ chunks : List Bytes,
        events = chunks.map .chunk ++ left ∧
          Leads d [a] (feed.pending ++ chunks.flatten) after.pending) := by
  generalize same : Answer.value a = answer at pulls
  induction pulls with
  | taken taken _ =>
    subst same
    obtain ⟨stays, tracks, leads⟩ := take_gives d taken
    exact .inr ⟨stays, tracks, [], rfl, by simpa using leads⟩
  | @chunk _ _ bytes _ _ _ _ taken _ ih =>
    obtain ⟨tracks, leads⟩ := take_waits d tracks taken
    rcases ih (tracks.push bytes) same with ⟨closed, clean⟩ | ⟨stays, tracks, chunks, rfl, gives⟩
    · exact .inl ⟨closed, endsCleanly_push leads clean⟩
    · refine .inr ⟨stays, tracks, bytes :: chunks, rfl, fun values later written => ?_⟩
      have on := leads (a :: values) (bytes ++ (chunks.flatten ++ later))
        (by simpa [push] using gives values later written)
      simpa using on
  | @finish _ kept _ _ _ _ taken proper finished =>
    have written := (finish_written d kept).2 a ((congrArg Prod.fst finished).trans same.symm)
    have closed := finish_closes d kept
    rw [finished] at closed
    exact .inl ⟨closed, endsCleanly_finish (take_waits d tracks taken).2 proper written _⟩
  | failed _ => cases same

/-- A feed that tells the end after some values has seen a body of just these values. -/
theorem endsCleanly_of_answers (d : Decoder α) {feed : Feed} {body : List Event} {values : List α}
    (tracks : feed.Tracks) (opened : feed.closed = false)
    (told : feed.answers d body (values.length + 1) = values.map .value ++ [.ended]) :
    EndsCleanly d values feed.pending body := by
  induction values generalizing feed body with
  | nil =>
    rw [answers_succ d (next_of_open d opened body), List.map_nil, List.nil_append,
      List.cons.injEq] at told
    exact (pulls_of_pull d (Prod.ext told.1 rfl) nofun).ended tracks
  | cons value values ih =>
    rw [List.length_cons, answers_succ d (next_of_open d opened body), List.map_cons,
      List.cons_append, List.cons.injEq] at told
    rcases (pulls_of_pull d (Prod.ext told.1 rfl) nofun).gives tracks with
      ⟨closed, clean⟩ | ⟨stays, tracks, chunks, split, leads⟩
    · rw [answers_of_closed d closed] at told
      cases values with
      | nil => exact clean
      | cons other values => simp [List.replicate_succ] at told
    · obtain ⟨others, ending, rest, same, proper, written⟩ := ih tracks stays told.2
      refine ⟨chunks ++ others, ending, rest, ?_, proper, ?_⟩
      · rw [split, same, List.map_append, List.append_assoc]
      · have whole := leads values others.flatten written
        simpa using whole

theorem heads_of_take (d : Decoder α) {feed after : Feed} {a : α}
    (taken : feed.take d = (.value a, after)) : Heads d a feed.pending := by
  obtain ⟨_, _, text, whole, read⟩ := take_reads d taken
  refine ⟨[], text, after.pending, whole, rfl, read.imp_right fun found => ?_⟩
  exact ⟨after.pending, [], (List.append_nil _).symm, found⟩

theorem heads_of_finish (d : Decoder α) {feed : Feed} {a : α} (finished : (feed.finish d).1 = .value a) :
    Heads d a feed.pending := by
  unfold finish at finished
  split at finished
  · cases finished
  · split at finished
    · next value decoded =>
      cases finished
      exact ⟨[], feed.pending, [], (List.append_nil _).symm, rfl, .inl decoded⟩
    · cases finished

/-- A value that is pulled is the first of what is in the buffer and in the chunks taken. -/
theorem Pulls.heads {d : Decoder α} {feed after : Feed} {a : α} {events left : List Event}
    (pulls : Pulls d feed events (.value a) after left) (tracks : feed.Tracks) :
    ∃ (chunks : List Bytes) (rest : List Event), events = chunks.map .chunk ++ rest ∧
      Heads d a (feed.pending ++ chunks.flatten) := by
  generalize same : Answer.value a = answer at pulls
  induction pulls with
  | @taken _ events _ _ taken _ =>
    subst same
    exact ⟨[], events, rfl, (heads_of_take d taken).more _⟩
  | @chunk _ _ bytes _ _ _ _ taken _ ih =>
    obtain ⟨tracks, blanks, all, whole⟩ := take_drops d tracks taken
    obtain ⟨chunks, rest, rfl, heads⟩ := ih (tracks.push bytes) same
    refine ⟨bytes :: chunks, rest, rfl, ?_⟩
    rw [whole, List.append_assoc, List.flatten_cons, ← List.append_assoc _ bytes]
    exact heads.behind all
  | @finish _ kept ending events _ _ taken _ finished =>
    obtain ⟨tracks, blanks, all, whole⟩ := take_drops d tracks taken
    have heads := heads_of_finish d ((congrArg Prod.fst finished).trans same.symm)
    refine ⟨[], ending :: events, rfl, ?_⟩
    rw [whole]
    exact (heads.behind all).more _
  | failed _ => cases same

theorem heads_of_answers (d : Decoder α) {body : List Event} {a : α}
    (told : start.answers d body 1 = [.value a]) :
    ∃ (chunks : List Bytes) (rest : List Event), body = chunks.map .chunk ++ rest ∧
      Heads d a chunks.flatten := by
  rw [answers_succ d (next_of_open d rfl body), List.cons.injEq] at told
  exact (pulls_of_pull d (Prod.ext told.1 rfl) nofun).heads (tracks_keep [])

end Feed

end TezosNode.Body
