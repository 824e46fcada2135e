import TezosNode.Client.Endpoint
import TezosNode.Proofs.Client.Observation
import TezosNode.Proofs.Client.Probes

/-!
What an observer is told of the request of a probe. Where the delivery ends before there is an answer, the
observer is told the status, if one came, and then the end, once. Where the answer is taken from the slot
the delivery is let go as it is, and the observer is told the status and never an end.
-/

namespace TezosNode.Client

open Decode

variable {α : Type}

namespace Probe

def seen? (exchange : Exchange) : List Move → Option Nat
  | [] => none
  | .slot :: moves => seen? exchange moves
  | .delivery caller deadline _ answered _ :: moves =>
    if caller || deadline then none
    else if answered then exchange.status?
    else seen? exchange moves

/-- What an observer has been told of the request of a probe when the probe answers. -/
inductive Accounted (call : Call) (exchange : Exchange) (moves : List Move)
    (after : Probe α × List (Signal α)) (outcome : Outcome α) : Prop where
  | closed {ending} : after.1.transfer.outcome? = some ending →
      call.hooks after.2 = account call (seen? exchange moves) (some ending) →
      Accounted call exchange moves after outcome
  /-- The delivery goes on when the probe answers, and nobody looks at it again. -/
  | leftOpen {status a} : after.1.transfer.outcome? = none → outcome = .ok (some a) →
      deliveries after.2 = [a] → seen? exchange moves = some status →
      call.hooks after.2 = [.headers call status] → Accounted call exchange moves after outcome

section

variable {d : Decoder α} {exchange : Exchange} {moves : List Move} {p : Probe α}

theorem run_cons (p : Probe α) (move : Move) (moves : List Move) :
    p.run exchange d (move :: moves) =
      (((p.step exchange d move).1.run exchange d moves).1,
        (p.step exchange d move).2 ++ ((p.step exchange d move).1.run exchange d moves).2) := rfl

theorem run_looks (d : Decoder α) (exchange : Exchange) (p : Probe α) (moves : List Move) :
    ∃ looks, p.transfer.run exchange d looks =
      ((p.run exchange d moves).1.transfer, (p.run exchange d moves).2) := by
  induction moves generalizing p with
  | nil => exact ⟨[], rfl⟩
  | cons move moves ih =>
    obtain ⟨looks, rest⟩ := ih (p.step exchange d move).1
    cases answer : p.answer with
    | some outcome =>
      rw [step_answered answer] at rest
      rw [run_cons, step_answered answer]
      exact ⟨looks, rest⟩
    | none =>
      cases move with
      | slot =>
        rw [step_slot answer] at rest
        rw [run_cons, step_slot answer]
        exact ⟨looks, rest⟩
      | delivery caller deadline callerAfter answered ready =>
        rw [step_delivery answer] at rest
        rw [run_cons, step_delivery answer]
        refine ⟨{ cancelled := caller || deadline, answered, ready, room := p.room } :: looks, ?_⟩
        rw [Transfer.run_cons]
        simp only [stepDelivery] at rest ⊢
        rw [rest]

theorem run_plain (call : Call) {p : Probe α} {signals : List (Signal α)}
    (plain : Transfer.Plain (p.transfer, signals)) (status : Option Nat) (moves : List Move) :
    call.hooks (status.toList.map .headers ++ signals ++ (p.run exchange d moves).2) =
      account call status (p.run exchange d moves).1.transfer.outcome? := by
  obtain ⟨looks, run⟩ := run_looks d exchange p moves
  have told : _ = account call status (p.transfer.run exchange d looks).1.outcome? :=
    Transfer.run_plain call plain status looks
  rwa [run] at told

theorem run_answered {outcome : Outcome α} (answer : p.answer = some outcome) (moves : List Move) :
    p.run exchange d moves = (p, []) := by
  induction moves with
  | nil => rfl
  | cons move moves ih => rw [run_cons, step_answered answer, ih, List.append_nil]

theorem start_stopped {look : Look} (cancelled : look.cancelled = true) (callerAfter : Bool) :
    (start (α := α)).stepDelivery exchange d look callerAfter =
      ({ transfer := ((Transfer.start .delivery).fail .cancelled).1
         slot := none
         answer := some (conclude none callerAfter (.error .cancelled)) },
        [.complete (.error .cancelled)]) := by
  have stopped : (start (α := α)).transfer.step exchange d look = (Transfer.start .delivery).fail .cancelled :=
    Transfer.step_cancelled rfl rfl cancelled
  simp only [stepDelivery, stopped]
  rfl

theorem start_step {look : Look} (calm : look.cancelled = false) :
    (start (α := α)).transfer.step exchange d look = (Transfer.start .delivery).stepSent exchange look := by
  have uninterrupted : (start (α := α)).transfer.interruption? look = none := by
    simp [Transfer.interruption?, start, Transfer.start, calm]
  simp only [Transfer.step, uninterrupted]
  rfl

theorem start_found (d : Decoder α) (exchange : Exchange) (look : Look) (calm : look.cancelled = false)
    (answered : look.answered = true) (callerAfter : Bool) :
    let after := (start (α := α)).stepDelivery exchange d look callerAfter
    ∃ signals, Transfer.Plain (after.1.transfer, signals) ∧
      after.2 = exchange.status?.toList.map .headers ++ signals := by
  intro after
  obtain ⟨⟨transfer, signals⟩, plain, sent⟩ :=
    Transfer.sent_found exchange (Transfer.start (α := α) .delivery) answered
  have found : start.transfer.step exchange d look = _ := (start_step calm).trans sent
  refine ⟨signals, ?_, ?_⟩
  · simpa only [after, stepDelivery, found] using plain
  · simp only [after, stepDelivery, found]

theorem start_waits {look : Look} (calm : look.cancelled = false) (unanswered : look.answered = false)
    (callerAfter : Bool) :
    (start (α := α)).stepDelivery exchange d look callerAfter = (start, []) := by
  have waits : (start (α := α)).transfer.step exchange d look = (Transfer.start .delivery, []) :=
    (start_step calm).trans (Transfer.sent_waits (by simp [unanswered]))
  simp only [stepDelivery, waits]
  rfl

theorem run_account (call : Call) (d : Decoder α) (exchange : Exchange) (moves : List Move) :
    call.hooks (start.run exchange d moves).2 =
      account call (seen? exchange moves) (start.run exchange d moves).1.transfer.outcome? := by
  induction moves with
  | nil => rfl
  | cons move moves ih =>
    cases move with
    | slot => exact ih
    | delivery caller deadline callerAfter answered ready =>
      simp only [run_cons, step_delivery (p := start) rfl, seen?]
      cases stopping : caller || deadline with
      | true =>
        rw [start_stopped rfl]
        exact run_plain call (Transfer.plain_finish _ _) none moves
      | false =>
        cases answered with
        | true =>
          obtain ⟨signals, plain, found⟩ :=
            start_found d exchange { answered := true, ready, room := start.room } rfl rfl callerAfter
          rw [found]
          exact run_plain call plain exchange.status? moves
        | false =>
          rw [start_waits rfl rfl]
          exact ih

theorem run_unseen (d : Decoder α) (exchange : Exchange) {status : Nat} (there : exchange.status? = some status)
    (unseen : seen? exchange moves = none) : deliveries (start.run exchange d moves).2 = [] := by
  induction moves with
  | nil => rfl
  | cons move moves ih =>
    cases move with
    | slot => exact ih unseen
    | delivery caller deadline callerAfter answered ready =>
      simp only [run_cons, step_delivery (p := start) rfl]
      cases stopping : caller || deadline with
      | true =>
        rw [start_stopped rfl, run_answered rfl]
        rfl
      | false =>
        cases answered with
        | true =>
          simp [seen?, stopping, there] at unseen
        | false =>
          rw [start_waits rfl rfl]
          exact ih (by simpa [seen?, stopping] using unseen)

end

/-- At an answer the observer has been told everything, or the status and nothing else; and the second
only where the answer is a value that was taken from the slot while the delivery went on. -/
theorem probe_accounted (call : Call) (d : Decoder α) (exchange : Exchange) (moves : List Move)
    {outcome : Outcome α} (answer : (Probe.start.run exchange d moves).1.answer = some outcome) :
    Accounted call exchange moves (Probe.start.run exchange d moves) outcome := by
  obtain ⟨looks, traced⟩ := run_traced (start_traced d exchange) moves
  simp only [List.nil_append] at traced
  have told := run_account call d exchange moves
  cases traced.answer outcome answer with
  | ended _ ended _ _ =>
    rw [ended] at told
    exact .closed ended told
  | @taken a slot running =>
    obtain ⟨one, first⟩ := traced.first slot
    obtain ⟨reply, rfl, _, _⟩ := first.answers
    cases status : seen? (.reply reply) moves with
    | none =>
      have nothing := run_unseen d (.reply reply) rfl status
      rw [one] at nothing
      cases nothing
    | some status =>
      rw [running, status] at told
      exact .leftOpen running rfl one status told

/-- The deadline passes after the reply, before there is a block. -/
theorem probe_accounted_deadline :
    let exchange : Exchange := .reply ⟨200, some mediaType, [.chunk (Bytes.ofString "\x7b")]⟩
    let moves : List Move := [.delivery false false false true 0, .slot,
      .delivery false false false true 1, .delivery false true false true 0]
    let after := start.run exchange BootstrappedBlock.decoder moves
    let call : Call := default
    after.1.answer = some (.ok none) ∧ Accounted call exchange moves after (.ok none) ∧
      call.hooks after.2 = [.headers call 200, .complete call (.error .cancelled)] := by
  intro exchange moves after call
  have answer : after.1.answer = some (.ok none) := rfl
  exact ⟨answer, probe_accounted call BootstrappedBlock.decoder exchange moves answer, rfl⟩

/-- A block, and a body that goes on. The block is found in the slot, and the end of the request that was
begun for it is never told. -/
theorem probe_left_open :
    let client : Client := ⟨⟨"http".toList, some ⟨[], [], some (.domain "node".toList), none⟩,
      .segments [[]], none, none⟩, "", none, true⟩
    let block := "\x7b\"block\":\"B1\",\"timestamp\":\"2018-11-27T17:49:01Z\"\x7d"
    let exchange : Exchange := .reply ⟨200, some mediaType, [.chunk (Bytes.ofString block)]⟩
    let moves : List Move := [.delivery false false false true 0, .delivery false false false true 1,
      .delivery false false false true 0, .slot]
    let after := start.run exchange BootstrappedBlock.decoder moves
    ∃ call, (client.begin 0 Endpoint.monitorBootstrapped.request).1 = .ok call ∧
      after.1.answer = some (.ok (some ⟨"B1", 1543340941, 0⟩)) ∧
      call.hooks after.2 = [.headers call 200] ∧
      ∀ outcome, Hook.complete call outcome ∉ call.hooks after.2 := by
  intro client block exchange moves after
  have begun : (client.begin 0 Endpoint.monitorBootstrapped.request).1 = .ok ⟨0, "GET",
      { client.base with path := .segments ["monitor".toList, "bootstrapped".toList] }⟩ := rfl
  refine ⟨_, begun, rfl, rfl, fun outcome told => ?_⟩
  cases List.mem_singleton.mp told

end Probe

end TezosNode.Client
