import TezosNode.Proofs.Client.Delivery

namespace TezosNode.Client

open Decode Body

variable {α : Type}

def Exchange.status? : Exchange → Option Nat
  | .failed => none
  | .reply r => some r.status

namespace Transfer

def found? (exchange : Exchange) (t : Transfer α) (look : Look) : Option Nat :=
  match t.stage with
  | .sent => if (t.interruption? look).isNone && look.answered then exchange.status? else none
  | _ => none

def closing (t : Transfer α) : List (Signal α) :=
  (t.outcome?.map fun outcome => Signal.complete (outcome.map fun _ => ())).toList

/-- A request on which the reply has come to something, and of which nothing is seen but the end. -/
structure Plain (after : Transfer α × List (Signal α)) : Prop where
  signals : after.2 = after.1.closing
  stage : after.1.stage ≠ .sent

/-- What a look at a running request lets others see. -/
inductive Shows (exchange : Exchange) (t : Transfer α) (look : Look) :
    Transfer α × List (Signal α) → Prop where
  | still : t.found? exchange look = none → Shows exchange t look (t, [])
  | plain {after} : Plain after →
      Shows exchange t look (after.1, (t.found? exchange look).toList.map .headers ++ after.2)
  | handing {after a} : t.found? exchange look = none → look.room = .free → after.outcome? = none →
      after.stage ≠ .sent → Shows exchange t look (after, [.delivered a])

section

variable (t : Transfer α) (look : Look)

theorem plain_finish (outcome : Outcome α) : Plain (t.finish outcome) := ⟨rfl, nofun⟩

theorem plain_await {stage : Stage α} (stays : stage ≠ .sent)
    (running : ∀ outcome, stage ≠ .ended outcome) : Plain (t.await stage) := by
  refine ⟨?_, stays⟩
  cases stage with
  | ended outcome => exact absurd rfl (running outcome)
  | _ => rfl

theorem refusing_plain (status : Nat) (contentType : Option String) (bytes : Bytes) :
    Plain (t.stepRefusing look status contentType bytes) := by
  unfold stepRefusing
  split
  · exact plain_finish _ _
  · exact plain_await _ nofun nofun
  · exact plain_finish _ _

theorem collecting_plain (d : Decoder α) (bytes : Bytes) : Plain (t.stepCollecting d look bytes) := by
  unfold stepCollecting
  split
  · exact plain_finish _ _
  · exact plain_await _ nofun nofun
  · exact plain_finish _ _

theorem accept_plain : Plain t.accept := by
  unfold accept
  split
  · exact plain_await _ nofun nofun
  · exact plain_finish _ _
  · exact plain_await _ nofun nofun

theorem sort_plain (reply : Reply) : Plain (t.sort look reply) := by
  unfold sort
  dsimp only
  split
  · exact plain_finish _ _
  · split
    · exact accept_plain _
    · exact refusing_plain _ _ _ _ _

theorem reading_plain (d : Decoder α) (feed : Feed) : Plain (t.stepReading d look feed) := by
  unfold stepReading
  dsimp only
  split
  · exact plain_await _ nofun nofun
  · exact plain_finish _ _
  · exact plain_finish _ _
  · exact plain_finish _ _
  · exact plain_await _ nofun nofun

end

section

variable {exchange : Exchange} {t : Transfer α} {look : Look}

theorem found?_of_stage (past : t.stage ≠ .sent) : t.found? exchange look = none := by
  unfold found?
  split
  · next stage => exact absurd stage past
  · rfl

theorem Shows.of_plain {after : Transfer α × List (Signal α)} (unfound : t.found? exchange look = none)
    (plain : Plain after) : Shows exchange t look after := by
  have shown : Shows exchange t look _ := .plain plain
  rwa [unfound] at shown

theorem sent_found (exchange : Exchange) (t : Transfer α) (answered : look.answered = true) :
    ∃ after, Plain after ∧ t.stepSent exchange look =
      (after.1, exchange.status?.toList.map .headers ++ after.2) := by
  unfold stepSent
  rw [if_pos answered]
  cases exchange with
  | failed => exact ⟨_, plain_finish t _, rfl⟩
  | reply reply => exact ⟨_, sort_plain t look reply, rfl⟩

theorem sent_waits (unanswered : ¬look.answered = true) : t.stepSent exchange look = (t, []) := by
  unfold stepSent
  exact if_neg unanswered

theorem sent_shows (stage : t.stage = .sent) (calm : t.interruption? look = none) :
    Shows exchange t look (t.stepSent exchange look) := by
  have same : t.found? exchange look = if look.answered then exchange.status? else none := by
    simp only [found?, stage, calm, Option.isNone_none, Bool.true_and]
  by_cases answered : look.answered = true
  · rw [if_pos answered] at same
    obtain ⟨after, plain, sent⟩ := sent_found exchange t answered
    rw [sent, ← same]
    exact .plain plain
  · rw [if_neg answered] at same
    rw [sent_waits answered]
    exact .still same

theorem offering_shows {feed : Feed} {a : α} (stage : t.stage = .offering feed a) :
    Shows exchange t look (t.stepOffering look feed a) := by
  have unfound : t.found? exchange look = none := by simp only [found?, stage]
  unfold stepOffering
  cases room : look.room with
  | free => exact .handing unfound room rfl nofun
  | full => exact .still unfound
  | gone => exact .of_plain unfound (plain_finish t _)

theorem step_interrupted (d : Decoder α) {failure : Failure} (running : t.outcome? = none)
    (interrupted : t.interruption? look = some failure) : t.step exchange d look = t.fail failure := by
  cases stage : t.stage with
  | ended outcome => simp [outcome?, stage] at running
  | _ => simp only [step, stage, interrupted]

theorem step_shows (d : Decoder α) (exchange : Exchange) (look : Look) (running : t.outcome? = none) :
    Shows exchange t look (t.step exchange d look) := by
  cases interrupted : t.interruption? look with
  | some failure =>
    have unfound : t.found? exchange look = none := by
      cases stage : t.stage <;> simp [found?, stage, interrupted]
    rw [step_interrupted d running interrupted]
    exact .of_plain unfound (plain_finish t _)
  | none =>
    cases stage : t.stage with
    | ended outcome => simp [outcome?, stage] at running
    | sent =>
      simp only [step, stage, interrupted]
      exact sent_shows stage interrupted
    | refusing status contentType bytes =>
      simp only [step, stage, interrupted]
      exact .of_plain (found?_of_stage (by simp [stage])) (refusing_plain t look status contentType bytes)
    | collecting bytes =>
      simp only [step, stage, interrupted]
      exact .of_plain (found?_of_stage (by simp [stage])) (collecting_plain t look d bytes)
    | reading feed =>
      simp only [step, stage, interrupted]
      exact .of_plain (found?_of_stage (by simp [stage])) (reading_plain t look d feed)
    | offering feed value =>
      simp only [step, stage, interrupted]
      exact offering_shows stage

theorem deliveries_closing (t : Transfer α) : deliveries t.closing = [] := by
  unfold closing
  cases t.outcome? <;> rfl

theorem Shows.delivers {after : Transfer α × List (Signal α)} (shown : Shows exchange t look after) :
    deliveries after.2 = [] ∨
      look.room = .free ∧ after.1.outcome? = none ∧ ∃ a, deliveries after.2 = [a] := by
  cases shown with
  | still unfound => exact .inl rfl
  | @plain after plain =>
    have heads : deliveries ((t.found? exchange look).toList.map Signal.headers) = ([] : List α) := by
      cases t.found? exchange look <;> rfl
    rw [deliveries_append, heads, plain.signals, deliveries_closing]
    exact .inl rfl
  | handing unfound room goes => exact .inr ⟨room, goes, _, rfl⟩

end

end Transfer

end TezosNode.Client
