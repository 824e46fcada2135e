import TezosNode.Client.Probe
import TezosNode.Model.Bootstrap
import TezosNode.Proofs.Client.Cancellation

/-!
What the answer of a probe says. Whatever order the slot and the delivery are looked at in, the looks at
the delivery make one run of it, and the slot holds what that run has handed over. A deadline alone is no
failure. What is in the slot is the answer, unless the delivery is seen to fail by itself before the slot
is looked at.
-/

namespace TezosNode.Client

open Decode Body

variable {α : Type}

theorem Ends.uncancelled {d : Decoder α} {exchange : Exchange} {looks : List Look} {values : List α}
    {outcome : Outcome α} (ends : Ends d exchange looks values outcome)
    (other : outcome ≠ .error .cancelled) : Ends d exchange [] values outcome := by
  cases ends with
  | noContent same nothing empty => exact .noContent same nothing empty
  | ended yields clean => exact .ended yields clean
  | refusedValue yields => exact .refusedValue yields
  | brokenBody yields => exact .brokenBody yields
  | failed failure empty => exact .failed failure empty
  | cancelled _ _ => exact absurd rfl other
  | abandoned _ _ => exact absurd rfl other

theorem Exchange.failure?_ne_cancelled (exchange : Exchange) : exchange.failure? ≠ some .cancelled := by
  unfold failure?
  split
  · exact nofun
  · split
    · exact nofun
    · split <;> exact nofun

theorem Ends.of_cancelled {d : Decoder α} {exchange : Exchange} {looks : List Look} {values : List α}
    (ends : Ends d exchange looks values (.error .cancelled)) (stays : ¬Abandoned looks) :
    Cancelled looks := by
  cases ends with
  | failed failure => exact absurd failure exchange.failure?_ne_cancelled
  | cancelled cancelled => exact cancelled
  | abandoned abandoned => exact absurd abandoned stays

/-- The value is the first of the body, and is read off the front of the body. -/
structure IsFirst (d : Decoder α) (exchange : Exchange) (a : α) : Prop where
  answers : Answers d exchange [a] []
  heads : ∃ (chunks : List Bytes) (rest : List Body.Event),
    exchange.body = chunks.map .chunk ++ rest ∧ Heads d a chunks.flatten

theorem Answers.isFirst {d : Decoder α} {exchange : Exchange} {a : α}
    (answers : Answers d exchange [a] []) : IsFirst d exchange a := by
  refine ⟨answers, ?_⟩
  obtain ⟨reply, rfl, _, told⟩ := answers
  exact Feed.heads_of_answers d told

namespace Probe

def Move.Withdraws : Move → Prop
  | .slot => False
  | .delivery caller _ callerAfter _ _ => caller = true ∨ callerAfter = true

def Move.Expires : Move → Prop
  | .slot => False
  | .delivery _ deadline _ _ _ => deadline = true

def Move.Steady : Move → Prop
  | .slot => True
  | .delivery caller _ callerAfter _ _ => caller = true → callerAfter = true

/-- How a probe comes to an answer: it finds the slot filled, or the delivery ends. -/
inductive Answered (moves : List Move) (looks : List Look) (p : Probe α) : Outcome α → Prop where
  | taken {a} : p.slot = some a → p.transfer.outcome? = none → Answered moves looks p (.ok (some a))
  | ended {caller deadline callerAfter answered ready outcome told} :
      .delivery caller deadline callerAfter answered ready ∈ moves →
      p.transfer.outcome? = some outcome → (Cancelled looks → caller = true ∨ deadline = true) →
      conclude p.slot callerAfter outcome = told → Answered moves looks p told

/-- A probe after some moves, by the looks at the delivery among them. -/
structure Traced (d : Decoder α) (exchange : Exchange) (moves : List Move) (looks : List Look)
    (after : Probe α × List (Signal α)) : Prop where
  delivery : (Transfer.start .delivery).run exchange d looks = (after.1.transfer, after.2)
  slot : deliveries after.2 = after.1.slot.toList
  stays : ¬Abandoned looks
  running : after.1.answer = none → after.1.transfer.outcome? = none ∧ ¬Cancelled looks
  answer : ∀ outcome, after.1.answer = some outcome → Answered moves looks after.1 outcome

section

variable {d : Decoder α} {exchange : Exchange} {moves : List Move} {looks : List Look}
  {p : Probe α} {signals : List (Signal α)}

theorem Answered.more {outcome : Outcome α} (answered : Answered moves looks p outcome)
    (others : List Move) : Answered (moves ++ others) looks p outcome := by
  cases answered with
  | taken slot running => exact .taken slot running
  | ended member ends seen told => exact .ended (List.mem_append_left _ member) ends seen told

theorem start_traced (d : Decoder α) (exchange : Exchange) : Traced d exchange [] [] (start, []) :=
  ⟨rfl, rfl, nofun, fun _ => ⟨rfl, nofun⟩, nofun⟩

theorem Traced.faithful (traced : Traced d exchange moves looks (p, signals)) :
    Transfer.Faithful d exchange looks [] (p.transfer, signals) := by
  have faithful := Transfer.start_faithful d exchange looks
  rwa [traced.delivery] at faithful

theorem Traced.stands (traced : Traced d exchange moves looks (p, signals)) :
    Stands d exchange looks (deliveries signals) p.transfer.rest p.transfer.stage :=
  traced.faithful.stands

theorem room_stays (p : Probe α) : p.room ≠ .gone := by
  unfold room
  split <;> exact nofun

theorem slot_step (traced : Traced d exchange moves looks (p, signals))
    (running : p.transfer.outcome? = none) {look : Look} (room : look.room = p.room) :
    deliveries (signals ++ (p.transfer.step exchange d look).2) =
      ((deliveries (p.transfer.step exchange d look).2).head?.or p.slot).toList := by
  rw [Transfer.deliveries_append, traced.slot]
  rcases (Transfer.step_shows d exchange look running).delivers with
    nothing | ⟨free, _, a, value⟩
  · rw [nothing]
    simp
  · have empty : p.slot = none := by
      rw [free, Probe.room] at room
      cases slot : p.slot with
      | none => rfl
      | some b => simp [slot] at room
    rw [value, empty]
    rfl

theorem delivery_traced (traced : Traced d exchange moves looks (p, signals))
    (unanswered : p.answer = none) (caller deadline callerAfter answered : Bool) (ready : Nat) :
    let look : Look := { cancelled := caller || deadline, answered, ready, room := p.room }
    let after := p.stepDelivery exchange d look callerAfter
    Traced d exchange (moves ++ [.delivery caller deadline callerAfter answered ready])
      (looks ++ [look]) (after.1, signals ++ after.2) := by
  intro look after
  obtain ⟨running, calm⟩ := traced.running unanswered
  have run := Transfer.run_append d exchange (.start .delivery) looks [look]
  rw [traced.delivery] at run
  -- an earlier look that saw a cancellation would have ended the delivery
  have cancels (cancelled : Cancelled (looks ++ [look])) : look.cancelled = true := by
    obtain ⟨other, member, seen⟩ := cancelled
    rcases List.mem_append.mp member with before | last
    · exact absurd ⟨other, before, seen⟩ calm
    · rwa [List.mem_singleton.mp last] at seen
  refine ⟨?_, slot_step traced running rfl, ?_, fun none => ?_, fun outcome answer => ?_⟩
  · rw [run, Transfer.run_cons]
    simp [Transfer.run, after, stepDelivery]
  · rintro ⟨other, member, gone⟩
    rcases List.mem_append.mp member with before | last
    · exact traced.stays ⟨other, before, gone⟩
    · rw [List.mem_singleton.mp last] at gone
      exact p.room_stays gone
  · have goes : after.1.transfer.outcome? = .none := Option.map_eq_none_iff.mp none
    refine ⟨goes, fun cancelled => ?_⟩
    have stopped : p.transfer.step exchange d look = p.transfer.fail .cancelled :=
      Transfer.step_cancelled traced.faithful.purpose running (cancels cancelled)
    have ended : after.1.transfer.outcome? = some (.error .cancelled) := by
      show (p.transfer.step exchange d look).1.outcome? = _
      rw [stopped]
      rfl
    rw [goes] at ended
    cases ended
  · obtain ⟨found, ended, told⟩ := Option.map_eq_some_iff.mp answer
    refine .ended (List.mem_append_right _ (List.mem_singleton.mpr rfl)) ended (fun cancelled => ?_) told
    simpa [look] using cancels cancelled

theorem step_answered {outcome : Outcome α} (answer : p.answer = some outcome) (move : Move) :
    p.step exchange d move = (p, []) := by
  simp only [step, answer]

theorem step_slot (unanswered : p.answer = none) :
    p.step exchange d .slot = ({ p with answer := p.slot.map fun a => .ok (some a) }, []) := by
  simp only [step, unanswered]

theorem step_delivery (unanswered : p.answer = none) (caller deadline callerAfter answered : Bool)
    (ready : Nat) :
    p.step exchange d (.delivery caller deadline callerAfter answered ready) =
      p.stepDelivery exchange d
        { cancelled := caller || deadline, answered, ready, room := p.room } callerAfter := by
  simp only [step, unanswered]

theorem step_traced (traced : Traced d exchange moves looks (p, signals)) (move : Move) :
    ∃ more, Traced d exchange (moves ++ [move]) (looks ++ more)
      ((p.step exchange d move).1, signals ++ (p.step exchange d move).2) := by
  cases answer : p.answer with
  | some outcome =>
    refine ⟨[], ?_⟩
    rw [step_answered answer, List.append_nil, List.append_nil]
    exact ⟨traced.delivery, traced.slot, traced.stays, traced.running, fun outcome same =>
      (traced.answer outcome same).more _⟩
  | none =>
    cases move with
    | slot =>
      refine ⟨[], ?_⟩
      rw [step_slot answer, List.append_nil, List.append_nil]
      refine ⟨traced.delivery, traced.slot, traced.stays, fun _ => traced.running answer, fun outcome same => ?_⟩
      obtain ⟨a, filled, rfl⟩ := Option.map_eq_some_iff.mp same
      exact .taken filled (traced.running answer).1
    | delivery caller deadline callerAfter answered ready =>
      rw [step_delivery answer]
      exact ⟨_, delivery_traced traced answer caller deadline callerAfter answered ready⟩

theorem run_traced (traced : Traced d exchange moves looks (p, signals)) (others : List Move) :
    ∃ more, Traced d exchange (moves ++ others) (looks ++ more)
      ((p.run exchange d others).1, signals ++ (p.run exchange d others).2) := by
  induction others generalizing moves looks p signals with
  | nil => exact ⟨[], by simpa [run] using traced⟩
  | cons move others ih =>
    obtain ⟨first, one⟩ := step_traced traced move
    obtain ⟨more, all⟩ := ih one
    rw [List.append_assoc, List.append_assoc, List.append_assoc] at all
    exact ⟨first ++ more, all⟩

theorem Traced.first (traced : Traced d exchange moves looks (p, signals)) {a : α}
    (slot : p.slot = some a) : deliveries signals = [a] ∧ IsFirst d exchange a := by
  have one : deliveries signals = [a] := by rw [traced.slot, slot]; rfl
  refine ⟨one, ?_⟩
  rcases traced.stands.handed with empty | answers
  · rw [one] at empty
    cases empty
  · rw [one] at answers
    exact answers.isFirst

theorem conclude_ok {slot value : Option α} {callerAfter : Bool} {outcome : Outcome α}
    (concluded : conclude slot callerAfter outcome = .ok value) :
    value = slot ∧ ((∃ other, outcome = .ok other) ∨
      outcome = .error .cancelled ∧ callerAfter = false) := by
  unfold conclude at concluded
  split at concluded
  · cases concluded
    exact ⟨rfl, .inl ⟨_, rfl⟩⟩
  · split at concluded
    · cases concluded
    · next kept =>
      cases concluded
      exact ⟨rfl, .inr ⟨rfl, by simpa using kept⟩⟩
  · cases concluded

theorem conclude_error {slot : Option α} {callerAfter : Bool} {outcome : Outcome α} {failure : Failure}
    (concluded : conclude slot callerAfter outcome = .error failure) :
    outcome = .error failure ∧ (failure = .cancelled → callerAfter = true) := by
  unfold conclude at concluded
  split at concluded
  · cases concluded
  · split at concluded
    · next withdrawn =>
      cases concluded
      exact ⟨rfl, fun _ => withdrawn⟩
    · cases concluded
  · next other =>
    cases concluded
    exact ⟨rfl, fun same => absurd (by rw [same]) other⟩

end

/-- What the answer of a probe says after some moves. -/
structure Sound (d : Decoder α) (exchange : Exchange) (moves : List Move)
    (after : Probe α × List (Signal α)) : Prop where
  first : ∀ a, after.1.answer = some (.ok (some a)) →
    deliveries after.2 = [a] ∧ IsFirst d exchange a
  nothing : after.1.answer = some (.ok none) →
    deliveries after.2 = [] ∧
      ((∃ move ∈ moves, move.Expires) ∨ Ends d exchange [] [] (.ok none))
  cancelled : after.1.answer = some (.error .cancelled) → ∃ move ∈ moves, move.Withdraws
  failed : ∀ failure, after.1.answer = some (.error failure) → failure ≠ .cancelled →
    after.1.transfer.outcome? = some (.error failure) ∧
      Ends d exchange [] (deliveries after.2) (.error failure)

section

variable {d : Decoder α} {exchange : Exchange} {moves : List Move} {looks : List Look}
  {p : Probe α} {signals : List (Signal α)}

theorem Traced.nothing (traced : Traced d exchange moves looks (p, signals))
    (steady : ∀ move ∈ moves, move.Steady) (answer : p.answer = some (.ok none)) :
    deliveries signals = [] ∧ ((∃ move ∈ moves, move.Expires) ∨ Ends d exchange [] [] (.ok none)) := by
  cases traced.answer _ answer with
  | @ended caller deadline callerAfter answered ready outcome _ member ended seen told =>
    obtain ⟨empty, cases⟩ := conclude_ok told
    have none : deliveries signals = [] := by rw [traced.slot, ← empty]; rfl
    refine ⟨none, ?_⟩
    have ends := Transfer.ends_of_outcome? traced.stands ended
    rw [none] at ends
    rcases cases with ⟨other, rfl⟩ | ⟨rfl, kept⟩
    · right
      cases ends with
      | noContent same nothing empty => exact .noContent same nothing empty
      | ended yields clean => exact .ended yields clean
    · left
      refine ⟨_, member, ?_⟩
      rcases seen (ends.of_cancelled traced.stays) with withdrawn | expired
      · have after : callerAfter = true := steady _ member withdrawn
        rw [kept] at after
        cases after
      · exact expired

theorem Traced.failed (traced : Traced d exchange moves looks (p, signals)) {failure : Failure}
    (answer : p.answer = some (.error failure)) :
    p.transfer.outcome? = some (.error failure) ∧
      (failure = .cancelled → ∃ move ∈ moves, move.Withdraws) := by
  cases traced.answer _ answer with
  | ended member ended seen told =>
    obtain ⟨rfl, withdrawn⟩ := conclude_error told
    exact ⟨ended, fun cancelled => ⟨_, member, .inr (withdrawn cancelled)⟩⟩

end

/-- In whatever order things happen and are looked at: a value is the first of the body, there is none
only where nothing was handed over and time was up or the reply was over, only the caller makes it
cancelled, and any other failure is what the delivery ended with. -/
theorem probe_sound (d : Decoder α) (exchange : Exchange) (moves : List Move)
    (steady : ∀ move ∈ moves, move.Steady) :
    Sound d exchange moves (Probe.start.run exchange d moves) := by
  obtain ⟨looks, traced⟩ := run_traced (start_traced d exchange) moves
  simp only [List.nil_append] at traced
  refine ⟨fun a answer => ?_, traced.nothing steady, fun answer => ?_, fun failure answer other => ?_⟩
  · cases traced.answer _ answer with
    | taken slot => exact traced.first slot
    | ended _ _ _ told => exact traced.first (conclude_ok told).1.symm
  · exact (traced.failed answer).2 rfl
  · have ended := (traced.failed answer).1
    have ends := Transfer.ends_of_outcome? traced.stands ended
    exact ⟨ended, ends.uncancelled fun same => other (Except.error.inj same)⟩

/-- The deadline passes in the look after the one that hands over a string, and the body goes on. -/
theorem probe_sound_deadline :
    let body : List Body.Event := [.chunk [0x22, 0x61, 0x22, 0x22, 0x62, 0x22]]
    let moves : List Move := [.delivery false false false true 0, .delivery false false false true 1,
      .delivery false false false true 0, .delivery false true false true 0]
    let after := start.run (.reply ⟨200, none, body⟩) Decoder.text moves
    Sound Decoder.text (.reply ⟨200, none, body⟩) moves after ∧ after.1.answer = some (.ok (some "a")) := by
  intro body moves after
  have steady : ∀ move ∈ moves, move.Steady := by simp [moves, Move.Steady]
  exact ⟨probe_sound Decoder.text (.reply ⟨200, none, body⟩) moves steady, rfl⟩

/-- What becomes of the first value that was handed over. -/
structure Keeps (d : Decoder α) (exchange : Exchange) (a : α) (after : Probe α × List (Signal α)) :
    Prop where
  alone : deliveries after.2 = [a] ∧ IsFirst d exchange a
  waiting : after.1.answer = none → (after.1.step exchange d .slot).1.answer = some (.ok (some a))
  returned : ∀ outcome, after.1.answer = some outcome →
    (∀ failure, after.1.transfer.outcome? = some (.error failure) → failure = .cancelled) →
      outcome = .ok (some a)
  lost : ∀ failure, after.1.transfer.outcome? = some (.error failure) → failure ≠ .cancelled →
    after.1.answer = some (.error failure) ∧ Ends d exchange [] [a] (.error failure)

theorem conclude_failure (slot : Option α) (callerAfter : Bool) {failure : Failure}
    (other : failure ≠ .cancelled) : conclude slot callerAfter (.error failure) = .error failure := by
  cases failure with
  | cancelled => exact absurd rfl other
  | _ => rfl

section

variable {d : Decoder α} {exchange : Exchange} {moves : List Move} {looks : List Look}
  {p : Probe α} {signals : List (Signal α)}

theorem Traced.returned (traced : Traced d exchange moves looks (p, signals)) {a : α}
    (slot : p.slot = some a) (present : ∀ move ∈ moves, ¬move.Withdraws) {outcome : Outcome α}
    (answer : p.answer = some outcome)
    (unbroken : ∀ failure, p.transfer.outcome? = some (.error failure) → failure = .cancelled) :
    outcome = .ok (some a) := by
  cases traced.answer outcome answer with
  | taken filled =>
    rw [filled] at slot
    rw [slot]
  | @ended _ _ callerAfter _ _ found _ member ended seen told =>
    rw [← told, slot]
    cases found with
    | ok value => rfl
    | error failure =>
      have cancelled := unbroken failure ended
      subst cancelled
      have stays : ¬callerAfter = true := fun withdrawn => present _ member (.inr withdrawn)
      exact if_neg stays

theorem Traced.lost (traced : Traced d exchange moves looks (p, signals)) {failure : Failure}
    (ended : p.transfer.outcome? = some (.error failure)) (other : failure ≠ .cancelled) :
    p.answer = some (.error failure) := by
  cases answer : p.answer with
  | none =>
    rw [(traced.running answer).1] at ended
    cases ended
  | some outcome =>
    cases traced.answer outcome answer with
    | taken _ running =>
      rw [running] at ended
      cases ended
    | ended _ found _ told =>
      rw [ended, Option.some.injEq] at found
      rw [← told, ← found, conclude_failure _ _ other]

end

/-- As long as the caller does not cancel, a value that was handed over is the answer, whatever comes after
it, the deadline as well, unless the delivery fails by itself before the slot is looked at. -/
theorem first_value_kept (d : Decoder α) (exchange : Exchange) (moves : List Move)
    (present : ∀ move ∈ moves, ¬move.Withdraws) {a : α} {more : List α}
    (handed : deliveries (Probe.start.run exchange d moves).2 = a :: more) :
    Keeps d exchange a (Probe.start.run exchange d moves) := by
  obtain ⟨looks, traced⟩ := run_traced (start_traced d exchange) moves
  simp only [List.nil_append] at traced
  have slot : (Probe.start.run exchange d moves).1.slot = some a := by
    have whole := traced.slot
    rw [handed] at whole
    cases filled : (Probe.start.run exchange d moves).1.slot with
    | none => simp [filled] at whole
    | some b =>
      rw [filled, Option.toList_some, List.cons.injEq] at whole
      rw [whole.1]
  have alone := traced.first slot
  refine ⟨alone, fun unanswered => ?_, fun outcome answer => ?_, fun failure ended other => ?_⟩
  · rw [step_slot unanswered, slot]
    rfl
  · exact traced.returned slot present answer
  · refine ⟨traced.lost ended other, ?_⟩
    have ends := Transfer.ends_of_outcome? traced.stands ended
    rw [alone.1] at ends
    exact ends.uncancelled fun same => other (Except.error.inj same)

/-- A string, and a brace that is no value. The slot is looked at before the brace is read. -/
theorem first_value_kept_before_fault :
    let exchange : Exchange := .reply ⟨200, none, [.chunk [0x22, 0x61, 0x22, 0x7D]]⟩
    let moves : List Move := [.delivery false false false true 0, .delivery false false false true 1,
      .delivery false false false true 0, .slot]
    Keeps Decoder.text exchange "a" (start.run exchange Decoder.text moves) := by
  intro exchange moves
  have present : ∀ move ∈ moves, ¬move.Withdraws := by simp [moves, Move.Withdraws]
  have handed : deliveries (start.run exchange Decoder.text moves).2 = ["a"] := rfl
  exact first_value_kept Decoder.text exchange moves present handed

/-- A block, and a brace behind it in the same chunk. The slot is looked at first and found empty, and the
brace is read before it is looked at again. The block was handed over, nobody cancelled, and the answer is
the fault. -/
theorem first_value_lost :
    let block := "\x7b\"block\":\"B1\",\"timestamp\":\"2018-11-27T17:49:01Z\"\x7d"
    let exchange : Exchange := .reply ⟨200, some mediaType, [.chunk (Bytes.ofString (block ++ "\x7d"))]⟩
    let moves : List Move := [.slot, .delivery false false false true 0, .delivery false false false true 1,
      .delivery false false false true 0, .delivery false false false true 0]
    let after := start.run exchange BootstrappedBlock.decoder moves
    (∀ move ∈ moves, ¬move.Withdraws) ∧ deliveries after.2 = [⟨"B1", 1543340941, 0⟩] ∧
      after.1.answer = some (.error (.decode (.malformed .noValue))) := by
  intro block exchange moves after
  exact ⟨by simp [moves, Move.Withdraws], rfl, rfl⟩

end Probe

end TezosNode.Client
