import TezosNode.Proofs.Body.Endings

/-!
How much of a body is taken for its values. A value is answered as soon as the chunk with its last byte
is there, and a value that is there already is answered without a look at any event.
-/

namespace TezosNode.Body

open Decode Json

variable {α : Type}

theorem verdicts_append (d : Decoder α) {texts : List Bytes}
    (accepted : ∀ text ∈ texts, ∃ a, d.ofText text = .ok a) (others : List Bytes) :
    verdicts d (texts ++ others) = verdicts d texts ++ verdicts d others := by
  induction texts with
  | nil => rfl
  | cons text texts ih =>
    obtain ⟨⟨a, decoded⟩, later⟩ := List.forall_mem_cons.mp accepted
    simp [verdicts, decoded, ih later]

theorem length_verdicts (d : Decoder α) {texts : List Bytes}
    (accepted : ∀ text ∈ texts, ∃ a, d.ofText text = .ok a) :
    (verdicts d texts).length = texts.length := by
  induction texts with
  | nil => rfl
  | cons text texts ih =>
    obtain ⟨⟨a, decoded⟩, later⟩ := List.forall_mem_cons.mp accepted
    simp [verdicts, decoded, ih later]

/-- Chunks up to the one with the byte right before a place. -/
def UpTo (place : Nat) (taken : List Bytes) : Prop :=
  ∃ front chunk, taken = front ++ [chunk] ∧ front.flatten.length < place ∧
    place ≤ (front ++ [chunk]).flatten.length

namespace Feed

def Holds (feed : Feed) (text : Bytes) : Prop :=
  ∃ blank rest, Blank blank ∧ Enclosed text ∧ feed.pending = blank ++ text ++ rest

theorem take_tracks (d : Decoder α) {feed after : Feed} {answer : Answer α} (tracks : feed.Tracks)
    (taken : feed.take d = (answer, after)) : after.closed = true ∨ after.Tracks := by
  cases answer with
  | waiting => exact .inr (take_drops d tracks taken).1
  | value a => exact .inr (take_reads d taken).2.1
  | _ => exact .inl (take_closes d taken nofun nofun)

theorem pull_tracks (d : Decoder α) {feed after : Feed} {answer : Answer α} {events left : List Event}
    (tracks : feed.Tracks) (pulled : feed.pull d events = (answer, after, left)) :
    after.closed = true ∨ after.Tracks := by
  induction events generalizing feed with
  | nil =>
    rw [pull_nil] at pulled
    cases pulled
    exact take_tracks d tracks rfl
  | cons event events ih =>
    rcases taken : feed.take d with ⟨found, kept⟩
    by_cases waits : found = .waiting
    · subst waits
      have stays := (take_drops d tracks taken).1
      rw [pull_of_waiting d taken] at pulled
      cases event with
      | chunk bytes => exact ih (stays.push bytes) pulled
      | finished =>
        cases pulled
        exact .inl (finish_closes d kept)
      | cutOff =>
        cases pulled
        exact .inl (finish_closes d kept)
      | failed reason =>
        cases pulled
        exact .inl rfl
    · rw [pull_of_settled d taken waits] at pulled
      cases pulled
      exact take_tracks d tracks taken

theorem run_tracks (d : Decoder α) {feed after : Feed} {told : List (Answer α)}
    {events left : List Event} {calls : Nat} (tracks : feed.closed = true ∨ feed.Tracks)
    (ran : feed.run d events calls = (told, after, left)) : after.closed = true ∨ after.Tracks := by
  induction calls generalizing feed events told with
  | zero =>
    cases ran
    exact tracks
  | succ calls ih =>
    rcases called : feed.next d events with ⟨answer, mid, others⟩
    rw [run_succ d called, Prod.mk.injEq] at ran
    have step : mid.closed = true ∨ mid.Tracks := by
      cases closed : feed.closed with
      | true =>
        rw [next_of_closed d closed] at called
        cases called
        exact .inl closed
      | false =>
        rw [next_of_open d closed] at called
        exact pull_tracks d (by simpa [closed] using tracks) called
    exact ih step (Prod.ext rfl ran.2)

theorem next_of_holds (d : Decoder α) {feed : Feed} {text : Bytes}
    (tracks : feed.closed = true ∨ feed.Tracks) (holds : feed.Holds text) (events : List Event) :
    ∃ answer after, feed.next d events = (answer, after, events) ∧
      (feed.closed = false → verdicts d [text] = [answer]) := by
  cases closed : feed.closed with
  | true => exact ⟨.ended, feed, next_of_closed d closed events, nofun⟩
  | false =>
    obtain ⟨blank, rest, blanks, enclosed, whole⟩ := holds
    have taken := take_of_text d (by simpa [closed] using tracks) blanks enclosed whole
    have answered : ∃ answer after, feed.take d = (answer, after) ∧ answer ≠ .waiting ∧
        verdicts d [text] = [answer] := by
      cases decoded : d.ofText text with
      | ok a =>
        rw [decoded] at taken
        exact ⟨.value a, keep rest, taken, by simp, by simp [verdicts, decoded]⟩
      | error fault =>
        rw [decoded] at taken
        exact ⟨.refused fault, (keep rest).close, taken, by simp, by simp [verdicts, decoded]⟩
    obtain ⟨answer, after, taken, settled, told⟩ := answered
    rw [next_of_open d closed]
    exact ⟨answer, after, pull_of_settled d taken settled events, fun _ => told⟩

/-- Past texts, the chunks taken are those up to the last byte of the last one. -/
theorem Past.upTo {front : List (Bytes × Bytes)} {part : Bytes × Bytes} {taken : List Bytes}
    {after : Feed} (past : Past (front ++ [part]) [] taken after) (enclosed : Enclosed part.2) :
    UpTo (joined (front ++ [part]) []).length taken := by
  have whole := congrArg List.length past.whole
  rw [List.nil_append, length_joined] at whole
  rcases List.eq_nil_or_concat taken with rfl | ⟨init, last, rfl⟩
  · have none : (joined (front ++ [part]) []).length = 0 := by
      rw [List.flatten_nil, List.length_nil] at whole
      omega
    have empty : part.2 = [] := by simp [joined] at none; exact none.2.2
    have opening := enclosed.opening
    rw [empty] at opening
    cases opening
  · rw [List.concat_eq_append] at whole past ⊢
    have less := past.needed init last rfl
    rw [List.nil_append] at less
    exact ⟨init, last, rfl, less, by omega⟩

theorem run_of_accepted (d : Decoder α) (ending : List Event) {parts front back : List (Bytes × Bytes)}
    {tail : Bytes} {chunks : List Bytes} (blanks : ∀ part ∈ parts, Blank part.1)
    (enclosed : ∀ part ∈ parts, Enclosed part.2)
    (accepted : ∀ part ∈ parts, ∃ a, d.ofText part.2 = .ok a) (cut : chunks.flatten = joined parts tail)
    (split : parts = front ++ back) :
    ∃ taken others after, chunks = taken ++ others ∧ Past front [] taken after ∧
      start.run d (chunks.map .chunk ++ ending) front.length =
        (verdicts d (front.map (·.2)), after, others.map .chunk ++ ending) := by
  have among {part : Bytes × Bytes} (member : part ∈ front) : part ∈ parts := by
    rw [split]
    exact List.mem_append_left back member
  have whole : start.pending ++ chunks.flatten = joined front (joined back tail) := by
    rw [← joined_append, ← split, ← cut]
    rfl
  obtain ⟨after, left, ran, done⟩ := run_of_parts d ending (tracks_keep []) rfl
    (fun part member => blanks part (among member))
    (fun before part later same => serves_of_enclosed d ending (enclosed part (among (by simp [same]))) _)
    whole (uncut_none _ _ _)
  have texts : ∀ text ∈ front.map (·.2), ∃ a, d.ofText text = .ok a := by
    intro text member
    obtain ⟨part, inside, rfl⟩ := List.mem_map.mp member
    exact accepted part (among inside)
  rw [length_verdicts d texts, List.length_map] at ran
  cases done with
  | past _ same events past =>
    subst events
    exact ⟨_, _, after, same, past, ran⟩
  | refused refused =>
    obtain ⟨part, member, fault, refused⟩ := refused
    obtain ⟨a, decoded⟩ := accepted part (among member)
    rw [decoded] at refused
    cases refused

/-- Nothing is read ahead. When a value of a body is answered, the chunks taken are those up to the one
with its last byte, and no call that finds a whole text in the buffer takes anything. -/
theorem nothing_read_ahead (d : Decoder α) (parts : List (Bytes × Bytes)) (tail : Bytes)
    (chunks : List Bytes) (ending : List Event) (blanks : ∀ part ∈ parts, Blank part.1)
    (enclosed : ∀ part ∈ parts, Enclosed part.2)
    (accepted : ∀ part ∈ parts, ∃ a, d.ofText part.2 = .ok a)
    (cut : chunks.flatten = joined parts tail) :
    let body := chunks.map .chunk ++ ending
    (∀ front part back, parts = front ++ part :: back →
      ∃ a after taken others, d.ofText part.2 = .ok a ∧ chunks = taken ++ others ∧
        UpTo (joined (front ++ [part]) []).length taken ∧
        start.run d body (front.length + 1) =
          (verdicts d (front.map (·.2)) ++ [.value a], after, others.map .chunk ++ ending)) ∧
      ∀ calls told after left, start.run d body calls = (told, after, left) →
        ∀ text, after.Holds text → ∃ answer later, after.next d left = (answer, later, left) ∧
          (after.closed = false → verdicts d [text] = [answer]) := by
  intro body
  constructor
  · intro front part back split
    have member : part ∈ parts := by simp [split]
    have whole : parts = (front ++ [part]) ++ back := by simp [split]
    obtain ⟨a, decoded⟩ := accepted part member
    obtain ⟨taken, others, after, same, past, ran⟩ :=
      run_of_accepted d ending blanks enclosed accepted cut whole
    have told : verdicts d ((front ++ [part]).map (·.2)) =
        verdicts d (front.map (·.2)) ++ [.value a] := by
      have before : ∀ text ∈ front.map (·.2), ∃ a, d.ofText text = .ok a := by
        intro text inside
        obtain ⟨other, among, rfl⟩ := List.mem_map.mp inside
        exact accepted other (by rw [split]; exact List.mem_append_left _ among)
      rw [List.map_append, verdicts_append d before]
      simp [verdicts, decoded]
    rw [List.length_append, List.length_singleton, told] at ran
    exact ⟨a, after, taken, others, decoded, same, past.upTo (enclosed part member), ran⟩
  · intro calls told after left ran text holds
    exact next_of_holds d (run_tracks d (.inr (tracks_keep [])) ran) holds left

/-- Two lists that end in one chunk: the second one is there when the first one is answered. -/
theorem nothing_read_ahead_two_lists :
    let chunks : List Bytes :=
      [[0x5B, 0x22, 0x5D], [0x22, 0x5D, 0x20, 0x5B, 0x5D, 0x7B], [0x7D]]
    (∃ after taken others, chunks = taken ++ others ∧ UpTo 5 taken ∧
      start.run Decoder.text.list (chunks.map .chunk ++ [.cutOff]) 1 =
        ([.value ["]"]], after, others.map .chunk ++ [.cutOff])) ∧
      ∃ later, (keep [0x20, 0x5B, 0x5D, 0x7B]).next Decoder.text.list [.chunk [0x7D], .cutOff] =
        (.value [], later, [.chunk [0x7D], .cutOff]) := by
  intro chunks
  have quoted : Enclosed [0x5B, 0x22, 0x5D, 0x22, 0x5D] := by
    have item : Spells .value [0x22, 0x5D, 0x22] :=
      @Spells.string [0x5D] (.plain (by decide) (by decide) (by decide) .nil)
    have padded : Spells .padded [0x22, 0x5D, 0x22] := @Spells.padded [] _ [] rfl item rfl
    exact ⟨@Spells.list [0x22, 0x5D, 0x22] (.lastItem padded), rfl⟩
  have none : Enclosed [0x5B, 0x5D] := ⟨@Spells.noItems [] rfl, rfl⟩
  obtain ⟨taken, there⟩ := nothing_read_ahead Decoder.text.list
    [([], [0x5B, 0x22, 0x5D, 0x22, 0x5D]), ([0x20], [0x5B, 0x5D])] [0x7B, 0x7D] chunks [.cutOff]
    (by decide) (by simp [quoted, none]) (by simpa using ⟨⟨["]"], rfl⟩, ⟨[], rfl⟩⟩) rfl
  constructor
  · obtain ⟨a, after, taken, others, decoded, same, upTo, ran⟩ := taken [] _ _ rfl
    cases decoded
    exact ⟨after, taken, others, same, upTo, ran⟩
  · obtain ⟨answer, later, next, told⟩ := there 1 [.value ["]"]] _ _ rfl [0x5B, 0x5D]
      ⟨[0x20], [0x7B], rfl, none, rfl⟩
    cases told rfl
    exact ⟨later, next⟩

end Feed

end TezosNode.Body
