import TezosNode.Client.Session
import TezosNode.Proofs.Client.Signals

/-!
What an observer is told of the requests of a session. The requests are numbered as they begin, whatever
happens in between. Of each the observer is told the status of the reply, where there was one before the
request was stopped, and then the end with its outcome, and nothing more, whatever is told of others.
-/

namespace TezosNode.Client

open Decode

variable {α : Type}

def Purpose.stops : Purpose → Look → Bool
  | .delivery, look => look.cancelled
  | .single, look | .none, look => look.expired

def received? (purpose : Purpose) (exchange : Exchange) : List Look → Option Nat
  | [] => none
  | look :: looks =>
    if purpose.stops look then none
    else if look.answered then exchange.status?
    else received? purpose exchange looks

/-- What an observer is told of a request: the status, if there is one, and then the end, if it is there. -/
def account (call : Call) (status : Option Nat) (outcome : Option (Outcome α)) : List Hook :=
  (status.map (Hook.headers call)).toList ++
    (outcome.map fun outcome => Hook.complete call (outcome.map fun _ => ())).toList

namespace Transfer

variable {d : Decoder α} {exchange : Exchange} {t : Transfer α}

theorem hooks_append (call : Call) (signals others : List (Signal α)) :
    call.hooks (signals ++ others) = call.hooks signals ++ call.hooks others :=
  List.filterMap_append

theorem hooks_found (call : Call) (status : Option Nat) (t : Transfer α) :
    call.hooks (status.toList.map .headers ++ t.closing) = account call status t.outcome? := by
  unfold closing account
  cases status <;> cases t.outcome? <;> rfl

theorem closing_of_running (running : t.outcome? = none) : t.closing = [] := by
  rw [closing, running]
  rfl

/-- Once the sending has come to something only the end is told. What `t` itself shows of its end is put in
front, so that the statement goes on from each step. -/
theorem run_past (call : Call) (past : t.stage ≠ .sent) (looks : List Look) :
    call.hooks (t.closing ++ (t.run exchange d looks).2) =
      account call none (t.run exchange d looks).1.outcome? := by
  induction looks generalizing t with
  | nil =>
    rw [run, List.append_nil]
    exact hooks_found call none t
  | cons look looks ih =>
    rw [run_cons]
    cases final : t.outcome? with
    | some outcome =>
      have ended : t.step exchange d look = (t, []) := step_over d final look
      rw [ended]
      exact ih past
    | none =>
      rw [closing_of_running final, List.nil_append]
      have shown := step_shows d exchange look final
      generalize t.step exchange d look = after at shown ⊢
      cases shown with
      | still unfound =>
        have rest := ih past
        rwa [closing_of_running final] at rest
      | plain plain =>
        rw [found?_of_stage past, plain.signals]
        exact ih plain.stage
      | handing unfound room goes later =>
        have rest := ih later
        rwa [closing_of_running goes] at rest

theorem run_plain (call : Call) {after : Transfer α × List (Signal α)} (plain : Plain after)
    (status : Option Nat) (looks : List Look) :
    call.hooks (status.toList.map .headers ++ after.2 ++ (after.1.run exchange d looks).2) =
      account call status (after.1.run exchange d looks).1.outcome? := by
  rw [List.append_assoc, hooks_append, plain.signals, run_past call plain.stage looks]
  cases status <;> rfl

theorem stops_eq (purpose : Purpose) (look : Look) :
    purpose.stops look = ((start (α := α) purpose).interruption? look).isSome := by
  cases purpose with
  | delivery => cases cancelled : look.cancelled <;> simp [Purpose.stops, interruption?, start, cancelled]
  | _ => cases expired : look.expired <;> simp [Purpose.stops, interruption?, start, expired]

theorem run_account (call : Call) (purpose : Purpose) (exchange : Exchange) (d : Decoder α)
    (looks : List Look) :
    let run := (start purpose).run exchange d looks
    call.hooks run.2 = account call (received? purpose exchange looks) run.1.outcome? := by
  intro run
  induction looks with
  | nil => rfl
  | cons look looks ih =>
    have stops := stops_eq (α := α) purpose look
    simp only [run, run_cons, received?, stops]
    cases interrupted : (start (α := α) purpose).interruption? look with
    | some failure =>
      rw [step_interrupted d rfl interrupted]
      exact run_plain call (plain_finish _ _) none looks
    | none =>
      have stepped : (start purpose).step exchange d look = (start purpose).stepSent exchange look := by
        simp only [step, interrupted]
        rfl
      rw [stepped]
      by_cases answered : look.answered = true
      · obtain ⟨after, plain, sent⟩ :=
          sent_found exchange (start (α := α) purpose) answered
        simp only [Option.isSome_none, Bool.false_eq_true, if_false, if_pos answered, sent]
        exact run_plain call plain exchange.status? looks
      · simp only [Option.isSome_none, Bool.false_eq_true, if_false, if_neg answered, sent_waits answered]
        exact ih

end Transfer

def Hook.call : Hook → Call
  | .headers call _ | .complete call _ => call

theorem hooks_call (call : Call) (signals : List (Signal α)) :
    ∀ hook ∈ call.hooks signals, hook.call = call := by
  intro hook member
  obtain ⟨signal, _, told⟩ := List.mem_filterMap.mp member
  cases signal <;> cases told <;> rfl

def toldUnder (id : UInt64) (told : List Hook) : List Hook := told.filter fun hook => hook.call.id = id

theorem toldUnder_append (id : UInt64) (told more : List Hook) :
    toldUnder id (told ++ more) = toldUnder id told ++ toldUnder id more := List.filter_append ..

theorem toldUnder_self {call : Call} {told : List Hook} (same : ∀ hook ∈ told, hook.call = call) :
    toldUnder call.id told = told :=
  List.filter_eq_self.mpr fun hook member => by simp [same hook member]

theorem toldUnder_other {id : UInt64} {told : List Hook} (other : ∀ hook ∈ told, hook.call.id ≠ id) :
    toldUnder id told = [] :=
  List.filter_eq_nil_iff.mpr fun hook member => by simp [other hook member]

def Act.begins (c : Client) : Act α → Bool
  | .begin _ request _ _ => (request.url c.base).isOk
  | .look _ _ => false

theorem Act.begins_of_resolves {c : Client} {purpose : Purpose} {request : Request} {d : Decoder α}
    {exchange : Exchange} {url : Url} (resolves : request.url c.base = .ok url) :
    Act.begins c (.begin purpose request d exchange) = true := by
  rw [begins, resolves]
  rfl

def begun (c : Client) (acts : List (Act α)) : Nat := acts.countP (Act.begins c)

def looksAt (index : Nat) (acts : List (Act α)) : List Look :=
  acts.filterMap fun
    | .begin .. => none
    | .look other look => if other = index then some look else none

namespace Session

def calls (s : Session α) : List Call := s.requests.map (·.call)

/-- The requests have the numbers from nothing on, the next one gets the next number, and nothing is told
but of these requests. -/
structure Numbered (c : Client) (s : Session α) : Prop where
  client : s.client = c
  next : s.next = .ofNat s.calls.length
  ids : s.calls.map (·.id) = (List.range s.calls.length).map UInt64.ofNat
  known : ∀ hook ∈ s.told, hook.call ∈ s.calls

section

variable {c : Client} {s : Session α} {purpose : Purpose} {request : Request} {d : Decoder α}
  {exchange : Exchange}

theorem start_numbered (c : Client) : Numbered c (start (α := α) c) where
  client := rfl
  next := by simp [start, calls]
  ids := rfl
  known := by simp [start]

theorem act_begin {url : Url} (resolves : request.url s.client.base = .ok url) :
    s.act (.begin purpose request d exchange) =
      { s with
        next := s.next + 1
        requests := s.requests ++
          [⟨⟨s.next, request.method, url⟩, exchange, d, .start purpose⟩] } := by
  simp only [act, begin, resolves]

theorem act_begin_refused {fault : Url.UrlFault} (refused : request.url s.client.base = .error fault) :
    s.act (.begin purpose request d exchange) = s := by
  simp only [act, begin, refused]

theorem act_look {index : Nat} {r : Running α} (there : s.requests[index]? = some r) (look : Look) :
    s.act (.look index look) =
      { s with
        requests := s.requests.set index (r.step look).1
        told := s.told ++ (r.step look).2 } := by
  simp only [act, there]

theorem act_look_nowhere {index : Nat} (nowhere : s.requests[index]? = none) (look : Look) :
    s.act (.look index look) = s := by
  simp only [act, nowhere]

theorem calls_at {index : Nat} {r : Running α} (there : s.requests[index]? = some r) :
    s.calls[index]? = some r.call := by
  rw [calls, List.getElem?_map, there]
  rfl

theorem calls_look {index : Nat} {r : Running α} (there : s.requests[index]? = some r) (look : Look) :
    (s.act (.look index look)).calls = s.calls := by
  obtain ⟨bound, same⟩ := List.getElem?_eq_some_iff.mp (calls_at there)
  rw [act_look there, calls, List.map_set]
  show s.calls.set index r.call = s.calls
  rw [← same, List.set_getElem_self]

theorem act_numbered (numbered : Numbered c s) (act : Act α) :
    Numbered c (s.act act) ∧
      (s.act act).calls.length = s.calls.length + if act.begins c then 1 else 0 := by
  obtain ⟨rfl, next, ids, known⟩ := numbered
  cases act with
  | begin purpose request d exchange =>
    cases resolves : request.url s.client.base with
    | error fault =>
      rw [act_begin_refused resolves]
      refine ⟨⟨rfl, next, ids, known⟩, ?_⟩
      simp [Act.begins, resolves, Except.isOk, Except.toBool]
    | ok url =>
      have more : (s.act (.begin purpose request d exchange)).calls =
          s.calls ++ [⟨s.next, request.method, url⟩] := by
        rw [act_begin resolves, calls, List.map_append]
        rfl
      have length : (s.act (.begin purpose request d exchange)).calls.length = s.calls.length + 1 := by
        rw [more, List.length_append, List.length_singleton]
      refine ⟨⟨?_, ?_, ?_, ?_⟩, ?_⟩
      · rw [act_begin resolves]
      · rw [length, act_begin resolves, next, UInt64.ofNat_add]
        rfl
      · rw [length, more, List.map_append, ids, List.range_succ, List.map_append, next]
        rfl
      · rw [more, act_begin resolves]
        exact fun hook member => List.mem_append_left _ (known hook member)
      · rw [length, Act.begins_of_resolves resolves]
        rfl
  | look index look =>
    cases there : s.requests[index]? with
    | none =>
      rw [act_look_nowhere there]
      exact ⟨⟨rfl, next, ids, known⟩, rfl⟩
    | some r =>
      -- a look changes no call, and its hooks carry the number of a call that is there
      have same := calls_look there look
      have called : r.call ∈ s.calls := List.mem_of_getElem? (calls_at there)
      refine ⟨⟨?_, ?_, ?_, ?_⟩, ?_⟩
      · rw [act_look there]
      · rw [same, act_look there, next]
      · rw [same, ids]
      · rw [same, act_look there]
        intro hook member
        rcases List.mem_append.mp member with before | told
        · exact known hook before
        · rw [hooks_call _ _ hook told]
          exact called
      · rw [same]
        rfl

theorem run_cons (s : Session α) (act : Act α) (acts : List (Act α)) :
    s.run (act :: acts) = (s.act act).run acts := rfl

theorem run_append (s : Session α) (acts others : List (Act α)) :
    s.run (acts ++ others) = (s.run acts).run others := List.foldl_append

theorem run_numbered (numbered : Numbered c s) (acts : List (Act α)) :
    Numbered c (s.run acts) ∧ (s.run acts).calls.length = s.calls.length + begun c acts := by
  induction acts generalizing s with
  | nil => exact ⟨numbered, rfl⟩
  | cons act acts ih =>
    obtain ⟨one, length⟩ := act_numbered numbered act
    obtain ⟨all, more⟩ := ih one
    refine ⟨all, ?_⟩
    rw [run_cons, more, length, begun, begun, List.countP_cons]
    omega

theorem Numbered.id_at (numbered : Numbered c s) {index : Nat} {r : Running α}
    (there : s.requests[index]? = some r) : r.call.id = .ofNat index ∧ index < s.calls.length := by
  obtain ⟨bound, same⟩ := List.getElem?_eq_some_iff.mp (calls_at there)
  have id : (s.calls.map (·.id))[index]? = some r.call.id := by
    rw [List.getElem?_map, calls_at there]
    rfl
  rw [numbered.ids, List.getElem?_map, List.getElem?_range bound] at id
  exact ⟨(Option.some.inj id).symm, bound⟩

theorem Numbered.ids_differ (numbered : Numbered c s) (few : s.calls.length < UInt64.size)
    {index other : Nat} {r q : Running α} (there : s.requests[index]? = some r)
    (beside : s.requests[other]? = some q) (apart : other ≠ index) : q.call.id ≠ r.call.id := by
  obtain ⟨id, bound⟩ := numbered.id_at there
  obtain ⟨otherId, otherBound⟩ := numbered.id_at beside
  intro same
  rw [id, otherId] at same
  have equal := congrArg UInt64.toNat same
  rw [UInt64.toNat_ofNat_of_lt' (Nat.lt_trans otherBound few),
    UInt64.toNat_ofNat_of_lt' (Nat.lt_trans bound few)] at equal
  exact apart equal

theorem Numbered.fresh (numbered : Numbered c s) (few : s.calls.length < UInt64.size) {call : Call}
    (member : call ∈ s.calls) : call.id ≠ .ofNat s.calls.length := by
  have id : call.id ∈ s.calls.map (·.id) := List.mem_map.mpr ⟨call, member, rfl⟩
  rw [numbered.ids] at id
  obtain ⟨index, below, same⟩ := List.mem_map.mp id
  have bound : index < s.calls.length := List.mem_range.mp below
  intro last
  have equal := congrArg UInt64.toNat (same.trans last)
  rw [UInt64.toNat_ofNat_of_lt' (Nat.lt_trans bound few), UInt64.toNat_ofNat_of_lt' few] at equal
  omega

/-- A request goes on by the looks at it, and under its number is told what it lets be seen. -/
def Follows (index : Nat) (r : Running α) (looks : List Look) (before after : Session α) : Prop :=
  let run := r.transfer.run r.exchange r.decoder looks
  after.requests[index]? = some { r with transfer := run.1 } ∧
    toldUnder r.call.id after.told = toldUnder r.call.id before.told ++ r.call.hooks run.2

theorem follows_still {index : Nat} {r : Running α} {after : Session α}
    (there : after.requests[index]? = some r)
    (told : toldUnder r.call.id after.told = toldUnder r.call.id s.told) : Follows index r [] s after :=
  ⟨there, by rw [told]; exact (List.append_nil _).symm⟩

theorem act_follows (numbered : Numbered c s) (few : s.calls.length < UInt64.size) {index : Nat}
    {r : Running α} (there : s.requests[index]? = some r) (act : Act α) :
    Follows index r (looksAt index [act]) s (s.act act) := by
  cases act with
  | begin purpose request d exchange =>
    cases resolves : request.url s.client.base with
    | error fault =>
      rw [act_begin_refused resolves]
      exact follows_still there rfl
    | ok url =>
      rw [act_begin resolves]
      refine follows_still ?_ rfl
      rw [List.getElem?_append_left (List.getElem?_eq_some_iff.mp there).1]
      exact there
  | look other look =>
    by_cases same : other = index
    · subst same
      have looks : looksAt other [.look (α := α) other look] = [look] := by simp [looksAt]
      rw [looks, act_look there]
      refine ⟨?_, ?_⟩
      · rw [List.getElem?_set_self (List.getElem?_eq_some_iff.mp there).1]
        rfl
      · have own : toldUnder r.call.id (r.step look).2 = (r.step look).2 :=
          toldUnder_self (hooks_call r.call _)
        rw [toldUnder_append, own, Transfer.run_cons]
        simp [Running.step, Transfer.run]
    · have looks : looksAt index [.look (α := α) other look] = [] := by simp [looksAt, same]
      rw [looks]
      cases beside : s.requests[other]? with
      | none =>
        rw [act_look_nowhere beside]
        exact follows_still there rfl
      | some q =>
        rw [act_look beside]
        refine follows_still ?_ ?_
        · rw [List.getElem?_set_ne same]
          exact there
        -- another request has another number, so nothing is told under this one
        · have differ := numbered.ids_differ few there beside same
          have apart : toldUnder r.call.id (q.step look).2 = [] :=
            toldUnder_other fun hook member => by rw [hooks_call _ _ hook member]; exact differ
          rw [toldUnder_append, apart, List.append_nil]

theorem run_follows (numbered : Numbered c s) (acts : List (Act α))
    (few : s.calls.length + begun c acts < UInt64.size) {index : Nat} {r : Running α}
    (there : s.requests[index]? = some r) : Follows index r (looksAt index acts) s (s.run acts) := by
  induction acts generalizing s r with
  | nil => exact follows_still there rfl
  | cons act acts ih =>
    -- every act counts towards the bound once, so that it holds for what is left
    obtain ⟨one, length⟩ := act_numbered numbered act
    have split : begun c (act :: acts) = begun c acts + if act.begins c then 1 else 0 :=
      List.countP_cons
    have looks : looksAt index (act :: acts) = looksAt index [act] ++ looksAt index acts :=
      List.filterMap_append (l := [act])
    obtain ⟨goes, told⟩ := act_follows numbered (by omega) there act
    obtain ⟨after, more⟩ := ih one (by omega) goes
    rw [run_cons, looks, Follows, Transfer.run_append]
    refine ⟨after, ?_⟩
    rw [more, told, List.append_assoc, Transfer.hooks_append]

theorem Numbered.numbers (numbered : Numbered c s) (few : s.calls.length < UInt64.size) :
    s.requests.map (·.call.id.toNat) = List.range s.calls.length := by
  have bounded : ∀ index ∈ List.range s.calls.length, (UInt64.ofNat index).toNat = id index :=
    fun index below => UInt64.toNat_ofNat_of_lt' (Nat.lt_trans (List.mem_range.mp below) few)
  calc s.requests.map (·.call.id.toNat)
      = (s.calls.map (·.id)).map UInt64.toNat := by simp [calls]
    _ = (List.range s.calls.length).map fun index => (UInt64.ofNat index).toNat := by
        rw [numbered.ids, List.map_map]
        rfl
    _ = List.range s.calls.length := by rw [List.map_congr_left bounded, List.map_id]

theorem Numbered.begins (numbered : Numbered c s) (purpose : Purpose) (d : Decoder α)
    (exchange : Exchange) {url : Url} (resolves : request.url c.base = .ok url) (acts : List (Act α))
    (few : s.calls.length + 1 + c.begun acts < UInt64.size) :
    let call : Call := ⟨.ofNat s.calls.length, request.method, url⟩
    let run := (Transfer.start purpose).run exchange d (looksAt s.calls.length acts)
    let after := s.run (.begin purpose request d exchange :: acts)
    after.requests[s.calls.length]? = some ⟨call, exchange, d, run.1⟩ ∧
      toldUnder call.id after.told = call.hooks run.2 := by
  intro call run after
  have base : request.url s.client.base = .ok url := by rw [numbered.client, resolves]
  obtain ⟨one, length⟩ := act_numbered numbered (.begin purpose request d exchange)
  rw [Act.begins_of_resolves resolves, if_pos rfl] at length
  have there : (s.act (.begin purpose request d exchange)).requests[s.calls.length]? =
      some ⟨call, exchange, d, .start purpose⟩ := by
    have last : s.calls.length = s.requests.length := List.length_map _
    rw [act_begin base, numbered.next, last, List.getElem?_concat_length, ← last]
  obtain ⟨found, told⟩ := run_follows one acts (by omega) there
  have new : toldUnder call.id s.told = [] :=
    toldUnder_other fun hook member => numbered.fresh (by omega) (numbered.known hook member)
  refine ⟨found, told.trans ?_⟩
  rw [act_begin base, new, List.nil_append]

end

end Session

/-- What is promised of the requests of a session, and of what its observer is told. -/
structure Observed (c : Client) (acts : List (Act α)) (s : Session α) : Prop where
  numbers : s.requests.map (·.call.id.toNat) = List.range (begun c acts)
  known : ∀ hook ∈ s.told, ∃ r ∈ s.requests, hook.call = r.call
  /-- A request whose URL does not resolve is as if it had never been made. -/
  refused : ∀ before purpose request d exchange after fault,
    acts = before ++ .begin purpose request d exchange :: after →
    request.url c.base = .error fault → s = (Session.start c).run (before ++ after)
  told : ∀ before purpose request d exchange after url,
    acts = before ++ .begin purpose request d exchange :: after →
    request.url c.base = .ok url →
      let call : Call := ⟨.ofNat (begun c before), request.method, url⟩
      let looks := looksAt (begun c before) after
      let transfer := ((Transfer.start purpose).run exchange d looks).1
      s.requests[begun c before]? = some ⟨call, exchange, d, transfer⟩ ∧
        toldUnder call.id s.told = account call (received? purpose exchange looks) transfer.outcome?

/-- However the requests of a session overlap, each that begins has a number of its own, and its observer
is told of it the status of its reply and its end, and no more. -/
theorem session_observed (c : Client) (acts : List (Act α)) (few : c.begun acts < UInt64.size) :
    Observed c acts ((Session.start c).run acts) := by
  have count (front : List (Act α)) :
      ((Session.start c).run front).calls.length = c.begun front :=
    (Session.run_numbered (Session.start_numbered c) front).2.trans (Nat.zero_add _)
  have numbered (front : List (Act α)) : Session.Numbered c ((Session.start c).run front) :=
    (Session.run_numbered (Session.start_numbered c) front).1
  refine ⟨?_, fun hook member => ?_, ?_, ?_⟩
  · rw [(numbered acts).numbers (by rwa [count]), count]
  · obtain ⟨r, there, same⟩ := List.mem_map.mp ((numbered acts).known hook member)
    exact ⟨r, there, same.symm⟩
  · rintro before purpose request d exchange after fault rfl unresolved
    rw [← (numbered before).client] at unresolved
    rw [Session.run_append, Session.run_cons, Session.act_begin_refused unresolved, Session.run_append]
  · rintro before purpose request d exchange after url rfl resolves
    rw [begun, List.countP_append, List.countP_cons, Act.begins_of_resolves resolves, if_pos rfl] at few
    have rest : ((Session.start c).run before).calls.length + 1 + c.begun after < UInt64.size := by
      rw [count, begun, begun]
      omega
    obtain ⟨found, told⟩ := (numbered before).begins purpose d exchange resolves after rest
    rw [count, ← Session.run_append] at found told
    exact ⟨found, told.trans (Transfer.run_account _ purpose exchange d _)⟩

/-- A delivery that is cancelled after the reply, a request without a host, and one that finds no node and
is over before the delivery is. -/
theorem session_observed_overlap :
    let client : Client := ⟨⟨"http".toList, some ⟨[], [], some (.domain "node".toList), none⟩,
      .segments [[]], none, none⟩, "", none, true⟩
    let exchange : Exchange := .reply ⟨200, none, [.chunk [0x22, 0x61, 0x22]]⟩
    let acts : List (Act String) := [.begin .delivery (.get "/monitor/heads/main") Decoder.text exchange,
      .look 0 { answered := true }, .begin .none (.get "//") Decoder.text .failed,
      .begin .single (.get "/network/stat") Decoder.text .failed, .look 1 { answered := true },
      .look 0 { cancelled := true, answered := true, ready := 1 }]
    let s := (Session.start client).run acts
    Observed client acts s ∧ s.told.map (·.call.id) = [0, 1, 0] ∧ ∃ call,
      toldUnder 0 s.told = [.headers call 200, .complete call (.error .cancelled)] := by
  intro client exchange acts s
  have few : client.begun acts < UInt64.size := Nat.lt_of_le_of_lt List.countP_le_length (by decide)
  exact ⟨session_observed client acts few, rfl, _, rfl⟩

end TezosNode.Client
