import TezosNode.Client.Call
import TezosNode.Proofs.Client.Signals

namespace TezosNode.Client

open Decode Body

variable {α : Type}

namespace Transfer

variable {d : Decoder α} {exchange : Exchange} {t : Transfer α} {look : Look}

theorem step_cancelled (purpose : t.purpose = .delivery) (running : t.outcome? = none)
    (cancelled : look.cancelled = true) : t.step exchange d look = t.fail .cancelled := by
  have interrupted : t.interruption? look = some .cancelled := by
    rw [interruption?, purpose]
    exact if_pos cancelled
  exact step_interrupted d running interrupted

/-- From a look that sees the cancellation on there is nothing but the end, whatever later looks see. -/
theorem run_cancelled (purpose : t.purpose = .delivery) (running : t.outcome? = none)
    (cancelled : look.cancelled = true) (later : List Look) :
    t.run exchange d (look :: later) = t.fail .cancelled := by
  have ended : (t.fail (α := α) .cancelled).1.stage = .ended (.error .cancelled) := rfl
  rw [run_cons, step_cancelled purpose running cancelled, run_ended d exchange ended, List.append_nil]

end Transfer

def stream (c : Client) (next : UInt64) (request : Request) (exchange : Exchange)
    (d : Decoder α) (looks : List Look) : Except Failure (Call × Transfer α × List (Signal α)) :=
  (c.begin next request).1.map fun call => (call, (Transfer.start .delivery).run exchange d looks)

/-- What cancelling makes of a delivery that had come so far. -/
structure Dropped (call : Call) (before after : Transfer α × List (Signal α)) : Prop where
  outcome : after.1.outcome? = some (.error .cancelled)
  rest : after.1.rest = before.1.rest
  delivered : deliveries after.2 = deliveries before.2
  told : call.hooks after.2 = call.hooks before.2 ++ [.complete call (.error .cancelled)]

/-- Cancellation wins every tie: a delivery that has not ended when it is seen to be cancelled takes
and hands over nothing from then on, and its outcome is the cancellation, whatever else is ready. -/
theorem cancellation_wins (c : Client) (next : UInt64) (request : Request) {url : Url}
    (resolves : request.url c.base = .ok url) (exchange : Exchange) (d : Decoder α)
    (before : List Look) {look : Look} (cancelled : look.cancelled = true) (later : List Look) :
    ∃ call was run,
      c.stream next request exchange d before = .ok (call, was) ∧
      c.stream next request exchange d (before ++ look :: later) = .ok (call, run) ∧
      (was.1.outcome? = none → Dropped call was run) := by
  have begun : (c.begin next request).1 = .ok ⟨next, request.method, url⟩ := by
    rw [begin, resolves]
  have start : Stands d exchange [] [] (Transfer.start (α := α) .delivery).rest
      (Transfer.start (α := α) .delivery).stage := .sent rfl
  have purpose := (Transfer.run_faithful rfl start before).purpose
  simp only [stream, begun]
  refine ⟨_, _, _, rfl, rfl, fun running => ?_⟩
  rw [Transfer.run_append, Transfer.run_cancelled purpose running cancelled]
  refine ⟨rfl, rfl, ?_, ?_⟩
  · rw [Transfer.deliveries_append]
    exact List.append_nil _
  · exact List.filterMap_append

/-- The second string of a body is on offer, the receiver has room and the rest of the body is there
when the cancellation is seen. -/
theorem cancellation_wins_offering :
    let client : Client := ⟨⟨"http".toList, some ⟨[], [], some (.domain "node".toList), none⟩,
      .segments [[]], none, none⟩, "", none, true⟩
    let body : List Body.Event := [.chunk [0x22, 0x61, 0x22, 0x22, 0x62, 0x22], .chunk [0x22], .failed ""]
    let exchange : Exchange := .reply ⟨200, none, body⟩
    let before : List Look := [{ answered := true }, { ready := 1 }, {}, {}]
    let look : Look := { cancelled := true, answered := true, ready := 2, room := .free }
    ∃ call was run,
      stream client 0 (.get "/monitor/heads/main") exchange Decoder.text before = .ok (call, was) ∧
      was.1.outcome? = none ∧ deliveries was.2 = ["a"] ∧
      stream client 0 (.get "/monitor/heads/main") exchange Decoder.text (before ++ [look, {}]) =
        .ok (call, run) ∧ Dropped call was run := by
  intro client body exchange before look
  have resolves : (Request.get "/monitor/heads/main").url client.base =
      .ok { client.base with path := .segments ["monitor".toList, "heads".toList, "main".toList] } := by
    rfl
  have cancelled : look.cancelled = true := rfl
  obtain ⟨call, was, run, first, second, drops⟩ :=
    cancellation_wins client 0 _ resolves exchange Decoder.text before cancelled [{}]
  have come : was = (Transfer.start .delivery).run exchange Decoder.text before := by
    simp only [stream, begin, resolves, Except.map, Except.ok.injEq, Prod.mk.injEq] at first
    exact first.2.symm
  have running : was.1.outcome? = none := by rw [come]; rfl
  exact ⟨call, was, run, first, running, by rw [come]; rfl, second, drops running⟩

end TezosNode.Client
