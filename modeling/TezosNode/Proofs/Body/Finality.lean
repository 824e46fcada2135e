import Mathlib.Data.Seq.Basic
import TezosNode.Proofs.Body.Endings

namespace TezosNode.Body

open Decode

variable {α : Type}

inductive Answer.IsLast : Answer α → Prop where
  | ended : IsLast .ended
  | refused (fault : Fault) : IsLast (.refused fault)
  | broken (reason : String) : IsLast (.broken reason)

theorem Answer.isLast_or {answer : Answer α} (settled : answer ≠ .waiting) :
    answer.IsLast ∨ ∃ a, answer = .value a := by
  cases answer with
  | value a => exact .inr ⟨a, rfl⟩
  | ended => exact .inl .ended
  | refused fault => exact .inl (.refused fault)
  | broken reason => exact .inl (.broken reason)
  | waiting => exact absurd rfl settled

namespace Feed

theorem Pulls.takes {d : Decoder α} {feed after : Feed} {answer : Answer α} {events left : List Event}
    (pulls : Pulls d feed events answer after left) :
    ∃ taken, events = taken ++ left ∧ feed.pull d taken = (answer, after, []) := by
  induction pulls with
  | taken taken settled => exact ⟨[], rfl, pull_of_settled d taken settled []⟩
  | @chunk _ _ bytes _ _ _ _ waiting _ ih =>
    obtain ⟨taken, split, pulled⟩ := ih
    refine ⟨.chunk bytes :: taken, by rw [split, List.cons_append], ?_⟩
    exact (pull_of_waiting d waiting (.chunk bytes) taken).trans pulled
  | @finish _ kept ending events _ _ waiting proper finished =>
    refine ⟨[ending], rfl, ?_⟩
    rw [pull_of_waiting d waiting]
    rcases proper with rfl | rfl <;> simp [onEvent, finished]
  | @failed _ _ reason _ waiting =>
    refine ⟨[.failed reason], rfl, ?_⟩
    rw [pull_of_waiting d waiting]
    rfl

theorem next_takes (d : Decoder α) {feed after : Feed} {answer : Answer α} {events left : List Event}
    (called : feed.next d events = (answer, after, left)) (settled : answer ≠ .waiting) :
    ∃ taken, events = taken ++ left ∧ feed.next d taken = (answer, after, []) := by
  cases closed : feed.closed with
  | true =>
    rw [next_of_closed d closed] at called
    cases called
    exact ⟨[], rfl, next_of_closed d closed []⟩
  | false =>
    rw [next_of_open d closed] at called
    obtain ⟨taken, split, pulled⟩ := (pulls_of_pull d called settled).takes
    exact ⟨taken, split, by rw [next_of_open d closed, pulled]⟩

section

variable (d : Decoder α) {feed after : Feed} {answers : List (Answer α)} {events left : List Event}
  {calls : Nat}

theorem run_append (ran : feed.run d events calls = (answers, after, left))
    (returned : ∀ answer ∈ answers, answer ≠ .waiting) (more : List Event) :
    feed.run d (events ++ more) calls = (answers, after, left ++ more) := by
  induction calls generalizing feed events answers with
  | zero =>
    cases ran
    rfl
  | succ calls ih =>
    rcases called : feed.next d events with ⟨answer, mid, others⟩
    rw [run_succ d called, Prod.mk.injEq] at ran
    obtain ⟨rfl, rest⟩ := ran
    obtain ⟨settled, later⟩ := List.forall_mem_cons.mp returned
    have again := next_append_of_settled d called settled more
    rw [run_succ d again, ih (Prod.ext rfl rest) later]

theorem run_takes (ran : feed.run d events calls = (answers, after, left))
    (returned : ∀ answer ∈ answers, answer ≠ .waiting) :
    ∃ taken, events = taken ++ left ∧ feed.run d taken calls = (answers, after, []) := by
  induction calls generalizing feed events answers with
  | zero =>
    cases ran
    exact ⟨[], rfl, rfl⟩
  | succ calls ih =>
    rcases called : feed.next d events with ⟨answer, mid, others⟩
    rw [run_succ d called, Prod.mk.injEq] at ran
    obtain ⟨rfl, rest⟩ := ran
    obtain ⟨settled, later⟩ := List.forall_mem_cons.mp returned
    obtain ⟨first, split, once⟩ := next_takes d called settled
    obtain ⟨second, whole, then_⟩ := ih (Prod.ext rfl rest) later
    have again := next_append_of_settled d once settled second
    rw [List.nil_append] at again
    refine ⟨first ++ second, by rw [split, whole, List.append_assoc], ?_⟩
    rw [run_succ d again, then_]

theorem run_shape (ran : feed.run d events calls = (answers, after, left))
    (returned : ∀ answer ∈ answers, answer ≠ .waiting) :
    (∃ values : List α, answers = values.map .value) ∨
      ∃ (values : List α) (last : Answer α) (more : Nat), last.IsLast ∧
        answers = values.map .value ++ last :: List.replicate more .ended ∧
        feed.run d events (values.length + 1) = (values.map .value ++ [last], after, left) ∧
        after.closed = true := by
  induction calls generalizing feed events answers with
  | zero =>
    cases ran
    exact .inl ⟨[], rfl⟩
  | succ calls ih =>
    rcases called : feed.next d events with ⟨answer, mid, others⟩
    rw [run_succ d called, Prod.mk.injEq] at ran
    obtain ⟨rfl, rest⟩ := ran
    obtain ⟨settled, later⟩ := List.forall_mem_cons.mp returned
    rcases Answer.isLast_or settled with final | ⟨a, rfl⟩
    · have closed := next_closes d called settled (by rintro a rfl; cases final)
      rw [run_of_closed d closed] at rest later ⊢
      cases rest
      refine .inr ⟨[], answer, calls, final, rfl, ?_, closed⟩
      rw [List.length_nil, run_succ d called]
      rfl
    · rcases ih (Prod.ext rfl rest) later with
        ⟨values, told⟩ | ⟨values, last, more, final, told, before, closed⟩
      · exact .inl ⟨a :: values, congrArg (.value a :: ·) told⟩
      · refine .inr ⟨a :: values, last, more, final, congrArg (.value a :: ·) told, ?_, closed⟩
        rw [List.length_cons, run_succ d called, before, List.map_cons, List.cons_append]

end

/-- A feed that gets its events from a body, finite or not: so many calls come back with these answers, and
leave this feed and the rest of the body. -/
def Replies (d : Decoder α) (feed : Feed) (body : Stream'.Seq Event) (answers : List (Answer α))
    (after : Feed) (rest : Stream'.Seq Event) : Prop :=
  ∃ taken : List Event, body = (Stream'.Seq.ofList taken).append rest ∧
    feed.run d taken answers.length = (answers, after, []) ∧ ∀ answer ∈ answers, answer ≠ .waiting

theorem replies_of_closed (d : Decoder α) {feed after : Feed} (closed : feed.closed = true)
    (body rest : Stream'.Seq Event) (answers : List (Answer α)) :
    feed.Replies d body answers after rest ↔
      answers = List.replicate answers.length .ended ∧ after = feed ∧ rest = body := by
  constructor
  · rintro ⟨taken, split, ran, -⟩
    rw [run_of_closed d closed, Prod.mk.injEq, Prod.mk.injEq] at ran
    obtain ⟨told, same, rfl⟩ := ran
    rw [Stream'.Seq.ofList_nil, Stream'.Seq.nil_append] at split
    exact ⟨told.symm, same.symm, split.symm⟩
  · rintro ⟨told, rfl, rfl⟩
    refine ⟨[], ?_, ?_, ?_⟩
    · rw [Stream'.Seq.ofList_nil, Stream'.Seq.nil_append]
    · rw [run_of_closed d closed, ← told]
    · rw [told]
      intro answer member
      rw [List.eq_of_mem_replicate member]
      exact nofun

theorem replies_of_run (d : Decoder α) {feed after : Feed} {answers : List (Answer α)}
    {events left : List Event} (ran : feed.run d events answers.length = (answers, after, left))
    (returned : ∀ answer ∈ answers, answer ≠ .waiting) :
    feed.Replies d (Stream'.Seq.ofList events) answers after (Stream'.Seq.ofList left) := by
  obtain ⟨taken, split, alone⟩ := run_takes d ran returned
  exact ⟨taken, by rw [split, Stream'.Seq.ofList_append], alone, returned⟩

theorem fronts_compare {front others : List Event} {rest more : Stream'.Seq Event}
    (same : (Stream'.Seq.ofList front).append rest = (Stream'.Seq.ofList others).append more) :
    (∃ left, others = front ++ left ∧ rest = (Stream'.Seq.ofList left).append more) ∨
      ∃ left, front = others ++ left ∧ more = (Stream'.Seq.ofList left).append rest := by
  induction front generalizing others with
  | nil =>
    rw [Stream'.Seq.ofList_nil, Stream'.Seq.nil_append] at same
    exact .inl ⟨others, rfl, same⟩
  | cons event front ih =>
    cases others with
    | nil =>
      rw [Stream'.Seq.ofList_nil, Stream'.Seq.nil_append] at same
      exact .inr ⟨event :: front, rfl, same.symm⟩
    | cons other others =>
      rw [Stream'.Seq.ofList_cons, Stream'.Seq.ofList_cons, Stream'.Seq.cons_append,
        Stream'.Seq.cons_append, Stream'.Seq.cons_eq_cons] at same
      obtain ⟨rfl, same⟩ := same
      rcases ih same with ⟨left, rfl, whole⟩ | ⟨left, rfl, whole⟩
      · exact .inl ⟨left, rfl, whole⟩
      · exact .inr ⟨left, rfl, whole⟩

theorem Replies.unique {d : Decoder α} {feed after final : Feed} {body rest left : Stream'.Seq Event}
    {answers others : List (Answer α)} (replies : feed.Replies d body answers after rest)
    (again : feed.Replies d body others final left) (calls : answers.length = others.length) :
    answers = others ∧ after = final ∧ rest = left := by
  -- the call that takes more events would answer alike to fewer
  have shorter {answers others : List (Answer α)} {after final : Feed} {rest left : Stream'.Seq Event}
      {first more : List Event} (calls : answers.length = others.length)
      (whole : rest = (Stream'.Seq.ofList more).append left)
      (ran : feed.run d first answers.length = (answers, after, []))
      (returned : ∀ answer ∈ answers, answer ≠ .waiting)
      (goes : feed.run d (first ++ more) others.length = (others, final, [])) :
      answers = others ∧ after = final ∧ rest = left := by
    have both := (run_append d ran returned more).symm.trans (calls ▸ goes)
    cases both
    rw [whole, Stream'.Seq.ofList_nil, Stream'.Seq.nil_append]
    exact ⟨rfl, rfl, rfl⟩
  obtain ⟨first, split, ran, returned⟩ := replies
  obtain ⟨second, same, goes, come⟩ := again
  rcases fronts_compare (split.symm.trans same) with ⟨more, rfl, whole⟩ | ⟨more, rfl, whole⟩
  · exact shorter calls whole ran returned goes
  · obtain ⟨told, kept, none⟩ := shorter calls.symm whole goes come ran
    exact ⟨told.symm, kept.symm, none.symm⟩

/-- One error at most, and an end for good. Of any body, finite or not, so many calls answer with values
alone; or with values, then an answer of another kind, and then the end as often as it is asked. Such an
answer leaves a feed and a rest of the body that no later call changes. -/
theorem one_error_at_most (d : Decoder α) (body rest : Stream'.Seq Event) (answers : List (Answer α))
    (after : Feed) (replies : start.Replies d body answers after rest) :
    (∃ values : List α, answers = values.map .value) ∨
      ∃ (values : List α) (last : Answer α) (more : Nat), last.IsLast ∧
        answers = values.map .value ++ last :: List.replicate more .ended ∧
        start.Replies d body (values.map .value ++ [last]) after rest ∧
        ∀ later final left, after.Replies d rest later final left ↔
          later = List.replicate later.length .ended ∧ final = after ∧ left = rest := by
  obtain ⟨taken, split, ran, returned⟩ := replies
  rcases run_shape d ran returned with values | ⟨values, last, more, final, told, before, closed⟩
  · exact .inl values
  · have front : answers = (values.map .value ++ [last]) ++ List.replicate more .ended := by
      rw [told, List.append_assoc, List.singleton_append]
    have once : start.Replies d body (values.map .value ++ [last]) after rest := by
      refine ⟨taken, split, ?_, ?_⟩
      · rw [List.length_append, List.length_map, List.length_singleton, before]
      · intro answer member
        exact returned answer (front ▸ List.mem_append_left _ member)
    exact .inr ⟨values, last, more, final, told, once, fun later kept left =>
      replies_of_closed d closed rest left later⟩

/-- Lists without end, but for a bracket too many after the first one. -/
theorem one_error_at_most_bracket :
    let rest : Stream'.Seq Event :=
      .cons (.failed "reset") (.ofStream fun _ => .chunk [0x5B, 0x5D])
    let body : Stream'.Seq Event := .cons (.chunk [0x5B, 0x5D, 0x5D]) rest
    ∃ after, start.Replies Decoder.text.list body
        [.value [], .refused (.malformed .noValue), .ended] after rest ∧
      ∀ later final left, after.Replies Decoder.text.list rest later final left ↔
        later = List.replicate later.length .ended ∧ final = after ∧ left = rest := by
  intro rest body
  have replies : start.Replies Decoder.text.list body
      [.value [], .refused (.malformed .noValue), .ended] start.close rest := by
    refine ⟨[.chunk [0x5B, 0x5D, 0x5D]], ?_, rfl, by simp⟩
    rw [Stream'.Seq.ofList_cons, Stream'.Seq.ofList_nil, Stream'.Seq.cons_append,
      Stream'.Seq.nil_append]
  refine ⟨_, replies, ?_⟩
  rcases one_error_at_most Decoder.text.list body rest _ _ replies with
    ⟨values, told⟩ | ⟨values, last, more, final, told, once, stays⟩
  · have among : .ended ∈ values.map Answer.value := told ▸ by simp
    simp at among
  · exact stays

end Feed

end TezosNode.Body
