import TezosNode.Client.Transfer
import TezosNode.Proofs.Body.Endings

/-!
What a delivery hands over, and what its outcome says. Looks may come in any order and see whatever
they like. The invariant: the values handed over so far, and the one on offer, are the first answers
of the body, and the feed answers what comes after them.
-/

namespace TezosNode.Client

open Decode Body

variable {α : Type}

theorem Collected.add_append (bytes : Bytes) (front back : List Body.Event) :
    add bytes (front ++ back) =
      match add bytes front with
      | part more => add more back
      | settled => settled := by
  induction front generalizing bytes with
  | nil => rfl
  | cons event front ih =>
    cases event with
    | chunk more => exact ih (bytes ++ more)
    | finished => rfl
    | cutOff => rfl
    | failed reason => rfl

def Reply.Streams (reply : Reply) : Prop :=
  isNoContent reply.status = false ∧ isSuccess reply.status = true

namespace Exchange

def Fails : Exchange → Prop
  | .failed => True
  | .reply r => isSuccess r.status = false

/-- What such an exchange fails with, once there is enough of the body. -/
def failure? : Exchange → Option Failure
  | .failed => some .transport
  | .reply r =>
    if isSuccess r.status then none
    else
      match Collected.add [] r.body with
      | .whole body => some (.refused (Refusal.classify r.status r.contentType body))
      | .part _ => none
      | .broken => some .transport

def body : Exchange → List Body.Event
  | .failed => []
  | .reply r => r.body

theorem refusal_of_failure? (exchange : Exchange) {failure : Failure}
    (fails : exchange.failure? = some failure) (r : Reply) (same : exchange = .reply r) :
    isSuccess r.status = false ∧ ∀ more, Collected.add [] r.body ≠ .part more := by
  rw [same, failure?] at fails
  split at fails
  · cases fails
  · next refused =>
    refine ⟨by simpa using refused, fun more part => ?_⟩
    rw [part] at fails
    cases fails

end Exchange

theorem noContent_of_refused {status : Nat} (refused : isSuccess status = false) :
    isNoContent status = false := by
  by_cases same : status = 204
  · subst same
    cases refused
  · simp [isNoContent, same]

/-- The first calls on the body of the exchange answer with these values, and then so. -/
def Answers (d : Decoder α) (exchange : Exchange) (values : List α) (others : List (Answer α)) : Prop :=
  ∃ reply, exchange = .reply reply ∧ reply.Streams ∧
    Feed.start.answers d reply.body (values.length + others.length) = values.map .value ++ others

def Yields (d : Decoder α) (exchange : Exchange) (values : List α) (last : Answer α) : Prop :=
  ∃ reply, exchange = .reply reply ∧ reply.Streams ∧ ∀ more,
    Feed.start.answers d reply.body (values.length + 1 + more) =
      values.map .value ++ last :: List.replicate more .ended

def Handed (d : Decoder α) (exchange : Exchange) (values : List α) : Prop :=
  values = [] ∨ Answers d exchange values []

def Cancelled (looks : List Look) : Prop := ∃ look ∈ looks, look.cancelled = true

def Abandoned (looks : List Look) : Prop := ∃ look ∈ looks, look.room = .gone

/-- How a delivery may end that handed over some values. -/
inductive Ends (d : Decoder α) (exchange : Exchange) (looks : List Look) (values : List α) :
    Outcome α → Prop where
  | noContent {reply} : exchange = .reply reply → isNoContent reply.status = true → values = [] →
      Ends d exchange looks values (.ok none)
  | ended : Yields d exchange values .ended → EndsCleanly d values [] exchange.body →
      Ends d exchange looks values (.ok none)
  | refusedValue {fault} : Yields d exchange values (.refused fault) →
      Ends d exchange looks values (.error (.decode fault))
  | brokenBody {reason} : Yields d exchange values (.broken reason) →
      Ends d exchange looks values (.error (.body reason))
  | failed {failure} : exchange.failure? = some failure → values = [] →
      Ends d exchange looks values (.error failure)
  | cancelled : Cancelled looks → Handed d exchange values →
      Ends d exchange looks values (.error .cancelled)
  | abandoned {a} : Abandoned looks → Answers d exchange values [.value a] →
      Ends d exchange looks values (.error .cancelled)

/-- A stage of a delivery, after so many values and with so much of the body left, is true to the
exchange. -/
inductive Stands (d : Decoder α) (exchange : Exchange) (looks : List Look) (values : List α)
    (rest : List Body.Event) : Stage α → Prop where
  | sent : values = [] → Stands d exchange looks values rest .sent
  | refusing {reply bytes} : exchange = .reply reply → isSuccess reply.status = false →
      values = [] → rest.length ≤ reply.body.length →
      Collected.add [] reply.body = Collected.add bytes rest →
      Stands d exchange looks values rest (.refusing reply.status reply.contentType bytes)
  | reading {reply feed} : exchange = .reply reply → reply.Streams →
      (∀ calls, Feed.start.answers d reply.body (values.length + calls) =
        values.map .value ++ feed.answers d rest calls) →
      Stands d exchange looks values rest (.reading feed)
  | offering {reply feed a} : exchange = .reply reply → reply.Streams →
      (∀ calls, Feed.start.answers d reply.body (values.length + (calls + 1)) =
        values.map .value ++ .value a :: feed.answers d rest calls) →
      Stands d exchange looks values rest (.offering feed a)
  | ended {outcome} : Ends d exchange looks values outcome →
      Stands d exchange looks values rest (.ended outcome)

section

variable {d : Decoder α} {exchange : Exchange} {looks : List Look} {values : List α}
  {rest : List Body.Event}

theorem Answers.nil {others : List (Answer α)} (answers : Answers d exchange values others) :
    Answers d exchange values [] := by
  obtain ⟨reply, same, streams, told⟩ := answers
  refine ⟨reply, same, streams, ?_⟩
  have first := Feed.answers_take d .start reply.body values.length others.length
  rw [told, List.take_left' (List.length_map _)] at first
  simpa using first.symm

theorem Answers.yields {last : Answer α} (answers : Answers d exchange values [last])
    (settled : last ≠ .waiting) (noValue : ∀ a, last ≠ .value a) : Yields d exchange values last := by
  obtain ⟨reply, same, streams, told⟩ := answers
  exact ⟨reply, same, streams, Feed.answers_of_last d settled noValue told⟩

theorem Yields.handed {last : Answer α} (yields : Yields d exchange values last) :
    Handed d exchange values := by
  obtain ⟨reply, same, streams, told⟩ := yields
  have answers : Answers d exchange values [last] := ⟨reply, same, streams, told 0⟩
  exact .inr answers.nil

theorem Answers.endsCleanly (answers : Answers d exchange values [.ended]) :
    EndsCleanly d values [] exchange.body := by
  obtain ⟨reply, rfl, streams, told⟩ := answers
  exact Feed.endsCleanly_of_answers d (Feed.tracks_keep []) rfl told

theorem Ends.handed {outcome : Outcome α} (ends : Ends d exchange looks values outcome) :
    Handed d exchange values := by
  cases ends with
  | noContent _ _ empty => exact .inl empty
  | ended yields => exact yields.handed
  | refusedValue yields => exact yields.handed
  | brokenBody yields => exact yields.handed
  | failed _ empty => exact .inl empty
  | cancelled _ handed => exact handed
  | abandoned _ answers => exact .inr answers.nil

theorem Stands.handed {stage : Stage α} (stands : Stands d exchange looks values rest stage) :
    Handed d exchange values := by
  cases stands with
  | sent empty => exact .inl empty
  | refusing _ _ empty => exact .inl empty
  | reading same streams told => exact .inr ⟨_, same, streams, by simpa [Feed.answers] using told 0⟩
  | @offering reply feed a same streams told =>
    have more : Answers d exchange values [.value a] :=
      ⟨reply, same, streams, by simpa [Feed.answers] using told 0⟩
    exact .inr more.nil
  | ended ends => exact ends.handed

theorem Cancelled.more (cancelled : Cancelled looks) (others : List Look) :
    Cancelled (looks ++ others) := by
  obtain ⟨look, member, seen⟩ := cancelled
  exact ⟨look, List.mem_append_left _ member, seen⟩

theorem Abandoned.more (abandoned : Abandoned looks) (others : List Look) :
    Abandoned (looks ++ others) := by
  obtain ⟨look, member, seen⟩ := abandoned
  exact ⟨look, List.mem_append_left _ member, seen⟩

theorem Ends.more {outcome : Outcome α} (ends : Ends d exchange looks values outcome)
    (others : List Look) : Ends d exchange (looks ++ others) values outcome := by
  cases ends with
  | noContent same nothing empty => exact .noContent same nothing empty
  | ended yields clean => exact .ended yields clean
  | refusedValue yields => exact .refusedValue yields
  | brokenBody yields => exact .brokenBody yields
  | failed failure empty => exact .failed failure empty
  | cancelled cancelled handed => exact .cancelled (cancelled.more others) handed
  | abandoned abandoned answers => exact .abandoned (abandoned.more others) answers

theorem Stands.more {stage : Stage α} (stands : Stands d exchange looks values rest stage)
    (others : List Look) : Stands d exchange (looks ++ others) values rest stage := by
  cases stands with
  | sent empty => exact .sent empty
  | refusing same refused empty length collected =>
    exact .refusing same refused empty length collected
  | reading same streams told => exact .reading same streams told
  | offering same streams told => exact .offering same streams told
  | ended ends => exact .ended (ends.more others)

end

namespace Transfer

structure Faithful (d : Decoder α) (exchange : Exchange) (looks : List Look) (values : List α)
    (after : Transfer α × List (Signal α)) : Prop where
  purpose : after.1.purpose = .delivery
  stands : Stands d exchange looks (values ++ deliveries after.2) after.1.rest after.1.stage

section

variable {d : Decoder α} {exchange : Exchange} {looks : List Look} {values : List α}
  {t : Transfer α}

theorem faithful_quiet {after : Transfer α} (purpose : after.purpose = .delivery)
    (stands : Stands d exchange looks values after.rest after.stage) :
    Faithful d exchange looks values (after, []) :=
  ⟨purpose, by simpa [deliveries] using stands⟩

theorem faithful_finish (t : Transfer α) (purpose : t.purpose = .delivery) {outcome : Outcome α}
    (ends : Ends d exchange looks values outcome) :
    Faithful d exchange looks values (t.finish outcome) :=
  ⟨purpose, by simpa [finish, deliveries] using Stands.ended ends⟩

theorem refusing_faithful (t : Transfer α) {reply : Reply} {bytes : Bytes}
    (purpose : t.purpose = .delivery)
    (same : exchange = .reply reply) (refused : isSuccess reply.status = false)
    (length : t.rest.length ≤ reply.body.length)
    (collected : Collected.add [] reply.body = Collected.add bytes t.rest) (look : Look) :
    Faithful d exchange looks [] (t.stepRefusing look reply.status reply.contentType bytes) := by
  rw [← List.take_append_drop look.ready t.rest, Collected.add_append] at collected
  have failure : exchange.failure? =
      match Collected.add [] reply.body with
      | .whole body => some (.refused (Refusal.classify reply.status reply.contentType body))
      | .part _ => none
      | .broken => some .transport := by
    rw [same, Exchange.failure?, if_neg (by simp [refused])]
  unfold stepRefusing collect
  let later : Transfer α := { t with rest := t.rest.drop look.ready }
  cases part : Collected.add bytes (t.rest.take look.ready) with
  | whole body =>
    rw [part] at collected
    rw [collected] at failure
    exact faithful_finish later purpose (.failed failure rfl)
  | part more =>
    rw [part] at collected
    have less : (t.rest.drop look.ready).length ≤ reply.body.length := by
      rw [List.length_drop]
      omega
    exact faithful_quiet purpose (.refusing same refused rfl less collected)
  | broken =>
    rw [part] at collected
    rw [collected] at failure
    exact faithful_finish later purpose (.failed failure rfl)

theorem reading_faithful {reply : Reply} {feed : Feed} (purpose : t.purpose = .delivery)
    (same : exchange = .reply reply) (streams : reply.Streams)
    (told : ∀ calls, Feed.start.answers d reply.body (values.length + calls) =
      values.map .value ++ feed.answers d t.rest calls) (look : Look) :
    Faithful d exchange looks values (t.stepReading d look feed) := by
  unfold stepReading
  rcases called : feed.next d (t.rest.take look.ready) with ⟨answer, after, left⟩
  let later : Transfer α := { t with rest := left ++ t.rest.drop look.ready }
  by_cases waits : answer = .waiting
  · subst waits
    refine faithful_quiet purpose (.reading same streams fun calls => ?_)
    obtain ⟨nothing, on⟩ := Feed.answers_append_of_waiting d called (t.rest.drop look.ready) calls
    rw [List.take_append_drop] at on
    rw [told calls, on, nothing]
    rfl
  · have whole := Feed.next_append_of_settled d called waits (t.rest.drop look.ready)
    rw [List.take_append_drop] at whole
    have answers (calls : Nat) : Feed.start.answers d reply.body (values.length + (calls + 1)) =
        values.map .value ++ answer :: after.answers d (left ++ t.rest.drop look.ready) calls := by
      rw [told (calls + 1), Feed.answers_succ d whole]
    have first : Answers d exchange values [answer] := ⟨reply, same, streams, answers 0⟩
    cases answer with
    | waiting => exact absurd rfl waits
    | value a => exact faithful_quiet purpose (.offering same streams answers)
    | ended => exact faithful_finish later purpose (.ended (first.yields waits nofun) first.endsCleanly)
    | refused fault => exact faithful_finish later purpose (.refusedValue (first.yields waits nofun))
    | broken reason => exact faithful_finish later purpose (.brokenBody (first.yields waits nofun))

theorem offering_faithful {reply : Reply} {feed : Feed} {a : α} (purpose : t.purpose = .delivery)
    (stage : t.stage = .offering feed a) (same : exchange = .reply reply) (streams : reply.Streams)
    (told : ∀ calls, Feed.start.answers d reply.body (values.length + (calls + 1)) =
      values.map .value ++ .value a :: feed.answers d t.rest calls) (look : Look) :
    Faithful d exchange (looks ++ [look]) values (t.stepOffering look feed a) := by
  have offering : Stands d exchange (looks ++ [look]) values t.rest t.stage := by
    rw [stage]
    exact .offering same streams told
  unfold stepOffering
  cases room : look.room with
  | free =>
    refine ⟨purpose, .reading same streams fun calls => ?_⟩
    have all := told calls
    rw [← Nat.add_assoc, Nat.add_right_comm] at all
    simpa [deliveries] using all
  | full => exact faithful_quiet purpose offering
  | gone =>
    have answers : Answers d exchange values [.value a] := ⟨reply, same, streams, told 0⟩
    exact faithful_finish t purpose (.abandoned ⟨look, by simp, room⟩ answers)

theorem sent_faithful (purpose : t.purpose = .delivery) (stage : t.stage = .sent) (look : Look) :
    Faithful d exchange looks [] (t.stepSent exchange look) := by
  unfold stepSent
  by_cases answered : look.answered = true
  · rw [if_pos answered]
    cases exchange with
    | failed => exact faithful_finish t purpose (.failed rfl rfl)
    | reply reply =>
      have sorted : Faithful d (.reply reply) looks [] (t.sort look reply) := by
        let later : Transfer α := { t with rest := reply.body }
        unfold sort
        by_cases empty : isNoContent reply.status = true
        · rw [if_pos empty]
          exact faithful_finish later purpose (.noContent rfl empty rfl)
        · rw [if_neg empty]
          by_cases success : isSuccess reply.status = true
          · have streams : reply.Streams := ⟨by simpa using empty, success⟩
            rw [if_pos success, accept, purpose]
            exact faithful_quiet rfl (.reading rfl streams fun calls => by simp)
          · rw [if_neg success]
            exact refusing_faithful later purpose rfl (by simpa using success) (Nat.le_refl _) rfl look
      exact ⟨sorted.purpose, sorted.stands⟩
  · rw [if_neg answered]
    exact faithful_quiet purpose (stage ▸ .sent rfl)

theorem step_faithful (purpose : t.purpose = .delivery)
    (stands : Stands d exchange looks values t.rest t.stage) (look : Look) :
    Faithful d exchange (looks ++ [look]) values (t.step exchange d look) := by
  have later := stands.more [look]
  rcases t with ⟨_, stage, rest⟩
  cases purpose
  by_cases final : ∃ outcome, stage = .ended outcome
  · obtain ⟨outcome, rfl⟩ := final
    exact faithful_quiet rfl later
  -- every stage but the last is left when the cancellation is seen
  · by_cases cancelled : look.cancelled = true
    · have fails : step exchange d ⟨.delivery, stage, rest⟩ look =
          fail ⟨.delivery, stage, rest⟩ .cancelled := by
        cases stage with
        | ended outcome => exact absurd ⟨outcome, rfl⟩ final
        | _ => simp [step, interruption?, cancelled]
      rw [fails]
      exact faithful_finish _ rfl (.cancelled ⟨look, by simp, cancelled⟩ stands.handed)
    · cases stands with
      | ended ends => exact absurd ⟨_, rfl⟩ final
      | sent empty =>
        subst empty
        simp only [step, interruption?, cancelled]
        exact sent_faithful rfl rfl look
      | refusing same refused empty length collected =>
        subst empty
        simp only [step, interruption?, cancelled]
        exact refusing_faithful _ rfl same refused length collected look
      | reading same streams told =>
        simp only [step, interruption?, cancelled]
        exact reading_faithful rfl same streams told look
      | offering same streams told =>
        simp only [step, interruption?, cancelled]
        exact offering_faithful rfl rfl same streams told look

theorem deliveries_append (signals others : List (Signal α)) :
    deliveries (signals ++ others) = deliveries signals ++ deliveries others :=
  List.filterMap_append

theorem run_faithful (purpose : t.purpose = .delivery)
    (stands : Stands d exchange looks values t.rest t.stage) (others : List Look) :
    Faithful d exchange (looks ++ others) values (t.run exchange d others) := by
  induction others generalizing t looks values with
  | nil =>
    rw [List.append_nil]
    exact faithful_quiet purpose stands
  | cons look others ih =>
    have one := step_faithful purpose stands look
    have rest := ih one.purpose one.stands
    refine ⟨rest.purpose, ?_⟩
    have whole := rest.stands
    rw [List.append_assoc, List.append_assoc, ← deliveries_append] at whole
    exact whole

theorem start_faithful (d : Decoder α) (exchange : Exchange) (looks : List Look) :
    Faithful d exchange looks [] ((start .delivery).run exchange d looks) := by
  have stands : Stands d exchange [] [] (start (α := α) .delivery).rest
      (start (α := α) .delivery).stage := .sent rfl
  exact run_faithful rfl stands looks

theorem ends_of_outcome? {outcome : Outcome α}
    (stands : Stands d exchange looks values t.rest t.stage) (final : t.outcome? = some outcome) :
    Ends d exchange looks values outcome := by
  rcases t with ⟨purpose, stage, rest⟩
  cases stands with
  | ended ends =>
    cases final
    exact ends
  | _ => cases final

theorem run_cons (d : Decoder α) (exchange : Exchange) (t : Transfer α) (look : Look)
    (looks : List Look) :
    t.run exchange d (look :: looks) =
      (((t.step exchange d look).1.run exchange d looks).1,
        (t.step exchange d look).2 ++ ((t.step exchange d look).1.run exchange d looks).2) := rfl

theorem run_append (d : Decoder α) (exchange : Exchange) (t : Transfer α) (front back : List Look) :
    t.run exchange d (front ++ back) =
      (((t.run exchange d front).1.run exchange d back).1,
        (t.run exchange d front).2 ++ ((t.run exchange d front).1.run exchange d back).2) := by
  induction front generalizing t with
  | nil => rfl
  | cons look front ih => rw [List.cons_append, run_cons, run_cons, ih, List.append_assoc]

theorem step_over (d : Decoder α) {outcome : Outcome α} (final : t.outcome? = some outcome)
    (look : Look) : t.step exchange d look = (t, []) := by
  cases stage : t.stage with
  | ended outcome => simp only [step, stage]
  | _ => simp [outcome?, stage] at final

theorem run_ended (d : Decoder α) (exchange : Exchange) {outcome : Outcome α}
    (ended : t.stage = .ended outcome) (others : List Look) :
    t.run exchange d others = (t, []) := by
  have final : t.outcome? = some outcome := by rw [outcome?, ended]
  induction others with
  | nil => rfl
  | cons look others ih => rw [run_cons, step_over d final, ih, List.nil_append]

theorem refusing_ends (t : Transfer α) {reply : Reply} {bytes : Bytes} {look : Look}
    (enough : t.rest.length ≤ look.ready)
    (settles : ∀ more, Collected.add bytes t.rest ≠ .part more) :
    ∃ outcome, (t.stepRefusing look reply.status reply.contentType bytes).1.stage =
      .ended outcome := by
  unfold stepRefusing collect
  rw [List.take_of_length_le enough]
  cases collected : Collected.add bytes t.rest with
  | whole body => exact ⟨_, rfl⟩
  | part more => exact absurd collected (settles more)
  | broken => exact ⟨_, rfl⟩

theorem step_ends {failure : Failure} (purpose : t.purpose = .delivery)
    (fails : exchange.failure? = some failure)
    (stands : Stands d exchange looks values t.rest t.stage) {look : Look}
    (answered : look.answered = true) (enough : exchange.body.length ≤ look.ready) :
    ∃ outcome, (t.step exchange d look).1.stage = .ended outcome := by
  have refusal := exchange.refusal_of_failure? fails
  rcases t with ⟨_, stage, rest⟩
  cases purpose
  by_cases cancelled : look.cancelled = true
  · cases stands <;> simp [step, interruption?, cancelled, fail, finish]
  · cases stands with
    | ended ends => exact ⟨_, rfl⟩
    | sent empty =>
      simp only [step, interruption?, cancelled, stepSent, if_pos answered]
      cases exchange with
      | failed => exact ⟨_, rfl⟩
      | reply reply =>
        obtain ⟨refused, settles⟩ := refusal reply rfl
        have content : isNoContent reply.status = false := noContent_of_refused refused
        simp only [sort, content, refused]
        exact refusing_ends _ enough settles
    | refusing same refused empty length collected =>
      simp only [step, interruption?, cancelled]
      subst same
      apply refusing_ends _ (Nat.le_trans length enough)
      intro more part
      exact (refusal _ rfl).2 more (collected.trans part)
    | reading same streams told => exact absurd streams.2 (by simp [(refusal _ same).1])
    | offering same streams told => exact absurd streams.2 (by simp [(refusal _ same).1])

end

end Transfer

/-- What is promised of a delivery that handed over some values, and of its outcome if it has one. -/
structure Truthful (d : Decoder α) (exchange : Exchange) (looks : List Look) (values : List α)
    (outcome? : Option (Outcome α)) : Prop where
  handed : Handed d exchange values
  ends : ∀ outcome, outcome? = some outcome → Ends d exchange looks values outcome
  fails : exchange.Fails → values = [] ∧ ∀ outcome, outcome? = some outcome →
    (∃ failure, exchange.failure? = some failure ∧ outcome = .error failure) ∨
      (Cancelled looks ∧ outcome = .error .cancelled)
  settles : ∀ failure, exchange.failure? = some failure → ¬ Cancelled looks →
    (∃ look ∈ looks, look.answered = true ∧ exchange.body.length ≤ look.ready) →
    outcome? = some (.error failure)

section

variable {d : Decoder α} {exchange : Exchange} {looks : List Look} {values : List α}

theorem Exchange.fails_of_failure? {failure : Failure} (failure? : exchange.failure? = some failure) :
    exchange.Fails := by
  cases exchange with
  | failed => trivial
  | reply reply => exact (refusal_of_failure? _ failure? reply rfl).1

theorem Exchange.Fails.refused (fails : exchange.Fails) {reply : Reply}
    (same : exchange = .reply reply) : isSuccess reply.status = false := by
  subst same
  exact fails

theorem Exchange.Fails.nothing (fails : exchange.Fails) (handed : Handed d exchange values) :
    values = [] := by
  rcases handed with empty | ⟨reply, same, streams, _⟩
  · exact empty
  · exact absurd streams.2 (by simp [fails.refused same])

theorem Exchange.Fails.outcome (fails : exchange.Fails) {outcome : Outcome α}
    (ends : Ends d exchange looks values outcome) :
    (∃ failure, exchange.failure? = some failure ∧ outcome = .error failure) ∨
      (Cancelled looks ∧ outcome = .error .cancelled) := by
  have unread {last : Answer α} (yields : Yields d exchange values last) : False := by
    obtain ⟨reply, same, streams, _⟩ := yields
    exact absurd streams.2 (by simp [fails.refused same])
  cases ends with
  | noContent same nothing empty =>
    have content := noContent_of_refused (fails.refused same)
    rw [content] at nothing
    cases nothing
  | ended yields => exact (unread yields).elim
  | refusedValue yields => exact (unread yields).elim
  | brokenBody yields => exact (unread yields).elim
  | failed failure => exact .inl ⟨_, failure, rfl⟩
  | cancelled cancelled => exact .inr ⟨cancelled, rfl⟩
  | abandoned _ answers =>
    obtain ⟨reply, same, streams, _⟩ := answers
    exact absurd streams.2 (by simp [fails.refused same])

end

/-- Whatever its looks see, a delivery loses nothing, and its outcome tells what happened. -/
theorem delivery_truthful (d : Decoder α) (exchange : Exchange) (looks : List Look) :
    let run := (Transfer.start .delivery).run exchange d looks
    Truthful d exchange looks (deliveries run.2) run.1.outcome? := by
  intro run
  have start : Stands d exchange [] [] (Transfer.start (α := α) .delivery).rest
      (Transfer.start (α := α) .delivery).stage := .sent rfl
  have faithful : Transfer.Faithful d exchange looks [] run := Transfer.run_faithful rfl start looks
  have stands : Stands d exchange looks (deliveries run.2) run.1.rest run.1.stage := faithful.stands
  have ends (outcome : Outcome α) (final : run.1.outcome? = some outcome) :
      Ends d exchange looks (deliveries run.2) outcome := Transfer.ends_of_outcome? stands final
  refine ⟨stands.handed, ends, fun fails => ⟨fails.nothing stands.handed, fun outcome final =>
    fails.outcome (ends outcome final)⟩, ?_⟩
  rintro failure failure? calm ⟨look, member, answered, enough⟩
  obtain ⟨front, back, rfl⟩ := List.append_of_mem member
  have before := Transfer.run_faithful rfl start front
  obtain ⟨outcome, ended⟩ :=
    Transfer.step_ends before.purpose failure? before.stands answered enough
  have split := Transfer.run_append d exchange (.start .delivery) front (look :: back)
  have still := Transfer.run_ended d exchange ended back
  have final : run.1.outcome? = some outcome := by
    rw [Transfer.outcome?, congrArg Prod.fst (split.trans (by rw [Transfer.run_cons, still])), ended]
  rcases (Exchange.fails_of_failure? failure?).outcome (ends outcome final) with
    ⟨other, same, rfl⟩ | ⟨cancelled, _⟩
  · rw [failure?, Option.some.injEq] at same
    rw [final, same]
  · exact absurd cancelled calm

end TezosNode.Client
