import TezosNode.Proofs.Body.Lockstep
import TezosNode.Proofs.Body.Promptness
import TezosNode.Proofs.Decode.Attention

/-!
What is left at the end of a body. A feed that still waits there holds blanks, or bytes in which no end of a
value was found, or a bare value with a fault. A value that could be read from them would have been read
before, so the end gives none.
-/

namespace TezosNode.Body

open Decode Json

variable {α : Type}

namespace Feed

/-- Something that is left when a feed waits is torn, or the decoder finds a fault in it. -/
theorem left_of_waiting (d : Decoder α) {feed kept : Feed} (tracks : feed.Tracks)
    (waiting : feed.take d = (.waiting, kept)) (some : kept.pending ≠ []) :
    (Document.read kept.pending).1.Torn ∨ ∃ fault, d.ofText kept.pending = .error fault := by
  cases taken_of_take d waiting with
  | @unfinished extent unfinished =>
    rw [tracks.resume] at unfinished
    by_cases idle : extent.isIdle = true
    · rw [if_pos idle] at some
      exact absurd rfl some
    · rw [if_neg idle]
      exact .inl (read_torn unfinished)
  | @cutOff _ fault _ refused _ =>
    -- the bare value was read from the same bytes, up to the same fault
    refine .inr ⟨fault, ?_⟩
    rw [Decoder.ofText, refused]
    rfl

theorem finish_of_solid (d : Decoder α) {feed : Feed} (solid : feed.pending.all Ascii.isBlank = false) :
    (feed.finish d).1 =
      match d.ofText feed.pending with
      | .ok a => .value a
      | .error fault => .refused fault := by
  rw [finish, if_neg (by simp [solid])]
  cases d.ofText feed.pending <;> rfl

theorem refuses_left (d : Decoder α) (attentive : d.Attentive) {left : Bytes}
    (faulty : (Document.read left).1.Torn ∨ ∃ fault, d.ofText left = .error fault) :
    ∃ fault, d.ofText left = .error fault := by
  rcases faulty with torn | faulty
  · obtain ⟨fault, refused⟩ := d.refuses_torn torn
    exact ⟨fault, by rw [d.ofText_eq, refused]; rfl⟩
  · exact faulty

theorem finish_of_waiting (d : Decoder α) {feed kept after : Feed} {answer : Answer α}
    (tracks : feed.Tracks) (waiting : feed.take d = (.waiting, kept))
    (finished : kept.finish d = (answer, after)) :
    (kept.pending.all Ascii.isBlank = true → answer = .ended) ∧
      (d.Attentive → kept.pending.all Ascii.isBlank = false →
        ∃ fault, d.ofText kept.pending = .error fault ∧ answer = .refused fault) ∧
      ∀ a, answer = .value a → (Document.read kept.pending).1.Torn := by
  have told : answer = (kept.finish d).1 := by rw [finished]
  cases blank : kept.pending.all Ascii.isBlank with
  | true =>
    rw [finish, if_pos blank] at told
    refine ⟨fun _ => told, nofun, fun a value => ?_⟩
    cases told.symm.trans value
  | false =>
    have some : kept.pending ≠ [] := fun none => by simp [none] at blank
    have left := left_of_waiting d tracks waiting some
    rw [finish_of_solid d blank] at told
    refine ⟨nofun, fun attentive _ => ?_, fun a value => left.resolve_right ?_⟩
    · obtain ⟨fault, faulty⟩ := refuses_left d attentive left
      rw [faulty] at told
      exact ⟨fault, faulty, told⟩
    · rintro ⟨fault, faulty⟩
      rw [faulty] at told
      cases told.symm.trans value

theorem waiting_of_pull (d : Decoder α) {feed after : Feed} {answer : Answer α} {events left : List Event}
    (pulled : feed.pull d events = (answer, after, left)) (fewer : left.length < events.length) :
    ∃ kept, feed.take d = (.waiting, kept) := by
  rcases taken : feed.take d with ⟨found, kept⟩
  by_cases waits : found = .waiting
  · exact ⟨kept, by rw [waits]⟩
  · rw [pull_of_settled d taken waits] at pulled
    cases pulled
    exact absurd fewer (Nat.lt_irrefl _)

/-- A call that takes the end of a body makes something of what is left then: all of the buffer and of the
chunks before the end, but for blanks in front. -/
theorem pull_to_end (d : Decoder α) {feed after : Feed} {chunks : List Bytes} {ending : Event}
    {later : List Event} {answer : Answer α} (tracks : feed.Tracks)
    (proper : ending = .finished ∨ ending = .cutOff)
    (pulled : feed.pull d (chunks.map .chunk ++ ending :: later) = (answer, after, later)) :
    ∃ (last kept : Feed) (blanks : Bytes), last.Tracks ∧ last.take d = (.waiting, kept) ∧
      blanks.all Ascii.isBlank = true ∧ feed.pending ++ chunks.flatten = blanks ++ kept.pending ∧
      kept.finish d = (answer, after) := by
  obtain ⟨kept, waiting⟩ := waiting_of_pull d pulled (by simp; omega)
  obtain ⟨stays, blanks, dropped, whole⟩ := take_drops d tracks waiting
  -- every wait drops blanks at most, so the bytes before the end are blanks and what is kept
  induction chunks generalizing feed kept blanks with
  | nil =>
    rw [List.map_nil, List.nil_append, pull_of_waiting d waiting] at pulled
    refine ⟨feed, kept, blanks, tracks, waiting, dropped, by simpa using whole, ?_⟩
    rcases proper with rfl | rfl <;> cases pulled <;> rfl
  | cons chunk chunks ih =>
    rw [List.map_cons, List.cons_append, pull_of_waiting d waiting] at pulled
    have onward : (kept.push chunk).pull d (chunks.map .chunk ++ ending :: later) =
        (answer, after, later) := pulled
    have pushed := stays.push chunk
    obtain ⟨next, again⟩ := waiting_of_pull d onward (by simp; omega)
    obtain ⟨still, others, more, rest⟩ := take_drops d pushed again
    obtain ⟨last, kept, front, follows, waits, all, left, finished⟩ :=
      ih pushed onward next again still others more rest
    refine ⟨last, kept, blanks ++ front, follows, waits,
      by rw [List.all_append, dropped, all, Bool.and_self], ?_, finished⟩
    rw [List.append_assoc, ← left, whole, push, List.flatten_cons]
    simp only [List.append_assoc]

/-- The end of a body gives no value to a decoder that passes on what is torn. Whatever the body and the
calls before, the call that takes the end, a proper one or not, tells the end where blanks are left, and a
fault where anything else is. Any other decoder can make a value of torn bytes alone. And a bare value is
only looked for where there is something to read. -/
theorem end_gives_no_value (d : Decoder α) :
    (∀ (feed : Feed) (extent : Extent), feed.extent.resume feed.pending = (extent, .bare) →
      feed.pending.all Ascii.isJsonBlank = false) ∧
    ∀ (body : List Event) (calls : Nat) (told : List (Answer α)) (feed after : Feed)
        (chunks : List Bytes) (ending : Event) (later : List Event) (answer : Answer α),
      start.run d body calls = (told, feed, chunks.map .chunk ++ ending :: later) →
      ending = .finished ∨ ending = .cutOff →
      feed.next d (chunks.map .chunk ++ ending :: later) = (answer, after, later) →
      ∃ (kept : Feed) (blanks : Bytes), blanks.all Ascii.isBlank = true ∧
        feed.pending ++ chunks.flatten = blanks ++ kept.pending ∧ kept.finish d = (answer, after) ∧
        (kept.pending.all Ascii.isBlank = true → answer = .ended) ∧
        (d.Attentive → kept.pending.all Ascii.isBlank = false →
          ∃ fault, d.ofText kept.pending = .error fault ∧ answer = .refused fault) ∧
        ∀ a, answer = .value a → (Document.read kept.pending).1.Torn := by
  refine ⟨fun feed extent => solid_of_bare, ?_⟩
  intro body calls told feed after chunks ending later answer ran proper called
  cases closed : feed.closed with
  | true =>
    rw [next_of_closed d closed] at called
    have same := congrArg (fun outcome => outcome.2.2.length) called
    simp only [List.length_append, List.length_cons] at same
    omega
  | false =>
    have tracks := (run_tracks d (.inr (tracks_keep [])) ran).resolve_left (by simp [closed])
    rw [next_of_open d closed] at called
    obtain ⟨last, kept, blanks, follows, waits, dropped, whole, finished⟩ := pull_to_end d tracks proper called
    exact ⟨kept, blanks, dropped, whole, finished, finish_of_waiting d follows waits finished⟩

/-- A numeral that begins in a chunk, and a list that is followed by a form feed and a part of another one. -/
theorem end_gives_no_value_form_feed :
    let numeral : Feed := start.push [0x20, 0x31]
    let rest : List Event := [.chunk [0x5B], .cutOff]
    (∃ extent, numeral.extent.resume numeral.pending = (extent, .bare) ∧
      numeral.pending.all Ascii.isJsonBlank = false) ∧
    ∃ feed after, start.run Decoder.text.list (.chunk [0x5B, 0x5D, 0x0C] :: rest) 1 =
        ([.value []], feed, rest) ∧
      feed.next Decoder.text.list rest = (.refused (.malformed .listCutOff), after, []) ∧
      ∃ kept : Feed, kept.finish Decoder.text.list = (.refused (.malformed .listCutOff), after) ∧
        (kept.pending.all Ascii.isBlank = false → ∃ fault, Decoder.text.list.ofText kept.pending = .error fault) := by
  intro numeral rest
  obtain ⟨bare, final⟩ := end_gives_no_value Decoder.text.list
  refine ⟨⟨_, rfl, bare numeral _ rfl⟩, _, _, rfl, rfl, ?_⟩
  obtain ⟨kept, blanks, _, _, finished, _, refused, _⟩ :=
    final (.chunk [0x5B, 0x5D, 0x0C] :: rest) 1 _ _ _ [[0x5B]] .cutOff [] _ rfl (.inr rfl) rfl
  refine ⟨kept, finished, fun solid => ?_⟩
  obtain ⟨fault, faulty, _⟩ := refused inferInstance solid
  exact ⟨fault, faulty⟩

/-- A decoder that takes whatever there is makes a value of a list that breaks off, at either end. -/
theorem end_gives_value :
    let taking : Decoder Unit := ⟨fun _ _ => .ok ()⟩
    (start.next taking [.chunk [0x5B]]).1 = .waiting ∧
      (start.next taking [.chunk [0x5B], .finished]).1 = .value () ∧
      (start.next taking [.chunk [0x5B], .cutOff]).1 = .value () := ⟨rfl, rfl, rfl⟩

end Feed

end TezosNode.Body
