import TezosNode.Proofs.Body.Endings
import TezosNode.Proofs.Body.Lockstep
import TezosNode.Proofs.Decode.Attention

/-!
Bodies that are cut off. Between two values the end of a body is its end, proper or not; within a value
it is refused, at whatever byte. A body that fails ends with one error, and with the failure itself where
nothing is left that is refused before.
-/

namespace TezosNode.Body

open Decode Json

variable {α : Type}

def Word (bs : Bytes) : Prop :=
  bs = [0x6E, 0x75, 0x6C, 0x6C] ∨ bs = [0x74, 0x72, 0x75, 0x65] ∨ bs = [0x66, 0x61, 0x6C, 0x73, 0x65]

/-- After blanks a text of some kind begins, and something of it is missing. -/
def CutShort (kind : Bytes → Prop) (rest : Bytes) : Prop :=
  ∃ blank front back, Blank blank ∧ front ≠ [] ∧ back ≠ [] ∧ kind (front ++ back) ∧
    rest = blank ++ front

/-- The decoder asks for more of a literal that breaks off. -/
def Awaits (d : Decoder α) : Prop :=
  ∃ fault, d.decode (.text Decoder.textRoom) (.broken .wordCutOff) = .error fault ∧
    fault.category = .cutOff

def Tells (d : Decoder α) (body : List Event) (values : List α) (last : Answer α) : Prop :=
  ∀ more, Feed.start.answers d body (values.length + 1 + more) =
    values.map .value ++ last :: List.replicate more .ended

/-- Bytes that open with the texts of these values, blanks before each, and the bytes after them. -/
inductive Opens (d : Decoder α) : List α → Bytes → Bytes → Prop where
  | rest {rest} : Opens d [] rest rest
  | text {a values blank text bytes rest} : Blank blank → Enclosed text → d.ofText text = .ok a →
      Opens d values bytes rest → Opens d (a :: values) (blank ++ text ++ bytes) rest

structure Breaks (text : Bytes) : Prop where
  solid : text.head?.any Ascii.isBlank = false
  torn : ∀ {blank front back : Bytes}, Blank blank → front ≠ [] → back ≠ [] →
    text = front ++ back → (Document.read (blank ++ front)).1.Torn

theorem breaks_of_enclosed {text : Bytes} (enclosed : Enclosed text) : Breaks text where
  solid := enclosed.solid
  torn := by
    rintro blank front back blanks _ missing rfl
    obtain ⟨after, unfinished⟩ := Feed.scan_front blanks enclosed (List.append_assoc ..).symm missing
    exact read_torn unfinished

theorem Breaks.begun {text blank front back : Bytes} (breaks : Breaks text) (some : front ≠ [])
    (same : text = front ++ back) : ¬(blank ++ front).all Ascii.isBlank = true := by
  intro all
  cases front with
  | nil => exact some rfl
  | cons b front =>
    have head := breaks.solid
    rw [same, List.cons_append, List.head?_cons, Option.any_some] at head
    rw [List.all_append, List.all_cons, head, Bool.false_and, Bool.and_false] at all
    cases all

theorem read_word_front {blank front back : Bytes} (blanks : Blank blank) (some : front ≠ [])
    (missing : back ≠ []) (word : Word (front ++ back)) :
    Document.read (blank ++ front) = (.broken .wordCutOff, []) := by
  rw [Document.read_blank blanks]
  have part : front = (front ++ back).take front.length := by rw [List.take_left]
  have positive := List.length_pos_iff.mpr some
  have less : front.length < (front ++ back).length := by
    simpa using List.length_pos_iff.mpr missing
  rw [part]
  generalize front.length = n at *
  generalize front ++ back = whole at *
  rcases word with rfl | rfl | rfl
  · have cases : n = 1 ∨ n = 2 ∨ n = 3 := by simp only [List.length_cons, List.length_nil] at less; omega
    rcases cases with rfl | rfl | rfl <;> rfl
  · have cases : n = 1 ∨ n = 2 ∨ n = 3 := by simp only [List.length_cons, List.length_nil] at less; omega
    rcases cases with rfl | rfl | rfl <;> rfl
  · have cases : n = 1 ∨ n = 2 ∨ n = 3 ∨ n = 4 := by
      simp only [List.length_cons, List.length_nil] at less
      omega
    rcases cases with rfl | rfl | rfl | rfl <;> rfl

theorem breaks_of_word {text : Bytes} (word : Word text) : Breaks text where
  solid := by rcases word with rfl | rfl | rfl <;> rfl
  torn := by
    rintro blank front back blanks some missing rfl
    rw [read_word_front blanks some missing word]
    exact Document.torn_broken _

namespace Extent

theorem scan_blank {blank : Bytes} (blanks : Blank blank) (rest : Bytes) :
    start.scan (blank ++ rest) = (plain blank.length 0).scan rest := by
  simpa [plain, start] using Passes.blank blanks 0 0 rest (Nat.le_refl 0)

theorem scan_word_front {blank front back : Bytes} (blanks : Blank blank) (some : front ≠ [])
    (word : Word (front ++ back)) :
    start.scan (blank ++ front) = (plain blank.length 0, .bare) := by
  rw [scan_blank blanks]
  cases front with
  | nil => exact absurd rfl some
  | cons b front =>
    have letter : b = 0x6E ∨ b = 0x74 ∨ b = 0x66 := by
      rcases word with same | same | same <;> simp [(List.cons.inj same).1]
    rcases letter with rfl | rfl | rfl <;> rfl

end Extent

namespace Feed

theorem take_of_blank (d : Decoder α) {feed : Feed} (tracks : feed.Tracks)
    (blanks : Blank feed.pending) : feed.take d = (.waiting, start) := by
  have unfinished : Extent.start.scan feed.pending =
      (Extent.plain feed.pending.length 0, .unfinished) := by
    have scanned := Extent.scan_blank blanks []
    rwa [List.append_nil] at scanned
  rw [take_of_unfinished d tracks unfinished]
  rfl

theorem take_of_word (d : Decoder α) {feed : Feed} {blank front back : Bytes} {fault : Fault}
    (tracks : feed.Tracks) (blanks : Blank blank) (some : front ≠ []) (missing : back ≠ [])
    (word : Word (front ++ back)) (whole : feed.pending = blank ++ front)
    (refused : d.decode (.text Decoder.textRoom) (.broken .wordCutOff) = .error fault) :
    feed.take d =
      if fault.category = .cutOff then
        (.waiting, { feed with extent := Extent.plain blank.length 0 })
      else (.refused fault, { feed with extent := Extent.plain blank.length 0, closed := true }) := by
  have bare := Extent.scan_word_front blanks some word
  have solid : ¬feed.pending.all Ascii.isJsonBlank = true := by
    rw [whole]
    exact fun all => (breaks_of_word word).begun some rfl (Blank.all_isBlank all)
  have front : d.ofFront feed.pending = .error fault := by
    rw [Decoder.ofFront, whole, read_word_front blanks some missing word]
    simp only [refused]
    rfl
  rw [← whole] at bare
  rw [Feed.take, tracks.resume, bare]
  simp only [takeBare, if_neg solid, front]
  rfl

/-- A feed that holds no more than a part of a text after blanks waits for the rest of it. -/
def Waits (d : Decoder α) (text : Bytes) : Prop :=
  ∀ {feed : Feed} {blank back : Bytes}, feed.Tracks → Blank blank → back ≠ [] →
    blank ++ text = feed.pending ++ back →
    ∃ (after : Feed) (others : Bytes), feed.take d = (.waiting, after) ∧ after.Tracks ∧
      Blank others ∧ others ++ text = after.pending ++ back

theorem waits_of_enclosed (d : Decoder α) {text : Bytes} (enclosed : Enclosed text) : Waits d text :=
  fun tracks blanks missing whole => take_of_front d tracks blanks enclosed whole missing

theorem front_cases {blank text pending back : Bytes} (blanks : Blank blank)
    (whole : blank ++ text = pending ++ back) :
    (∃ others, Blank pending ∧ Blank others ∧ back = others ++ text) ∨
      ∃ front, front ≠ [] ∧ pending = blank ++ front ∧ text = front ++ back := by
  rcases List.append_eq_append_iff.mp whole with ⟨front, rfl, rfl⟩ | ⟨others, rfl, rfl⟩
  · by_cases none : front = []
    · subst none
      exact .inl ⟨[], by simpa using blanks, rfl, rfl⟩
    · exact .inr ⟨front, none, rfl, rfl⟩
  · simp only [Blank, List.all_append, Bool.and_eq_true] at blanks
    exact .inl ⟨others, blanks.1, blanks.2, rfl⟩

theorem waits_of_word {d : Decoder α} (awaits : Awaits d) {text : Bytes} (word : Word text) :
    Waits d text := by
  obtain ⟨fault, refused, cutOff⟩ := awaits
  intro feed blank back tracks blanks missing whole
  rcases front_cases blanks whole with ⟨others, all, left, rfl⟩ | ⟨front, some, there, rfl⟩
  · exact ⟨start, others, take_of_blank d tracks all, ⟨[], [], rfl, rfl⟩, left, rfl⟩
  · have taken := take_of_word d tracks blanks some missing word there refused
    rw [if_pos cutOff] at taken
    refine ⟨_, blank, taken, ⟨blank, front, there, ?_⟩, blanks, whole⟩
    have scanned := Extent.scan_blank blanks []
    rwa [List.append_nil] at scanned

theorem pull_of_waits {d : Decoder α} {text : Bytes} (waits : Waits d text) (event : Event)
    (later : List Event) {feed : Feed} {chunks : List Bytes} {blank back : Bytes}
    (tracks : feed.Tracks) (blanks : Blank blank) (missing : back ≠ [])
    (whole : blank ++ text = feed.pending ++ chunks.flatten ++ back) :
    ∃ (after : Feed) (others : Bytes),
      feed.pull d (chunks.map .chunk ++ event :: later) = after.onEvent d later event ∧
        Blank others ∧ others ++ text = after.pending ++ back := by
  induction chunks generalizing feed blank with
  | nil =>
    rw [List.flatten_nil, List.append_nil] at whole
    obtain ⟨after, others, taken, _, left, same⟩ := waits tracks blanks missing whole
    exact ⟨after, others, pull_of_waiting d taken event later, left, same⟩
  | cons chunk chunks ih =>
    rw [List.append_assoc] at whole
    obtain ⟨after, others, taken, kept, left, same⟩ := waits tracks blanks (by simp [missing]) whole
    have more : others ++ text = (after.push chunk).pending ++ chunks.flatten ++ back := by
      rw [same, Feed.push, List.flatten_cons]
      simp only [List.append_assoc]
    obtain ⟨last, blank, pulled, rest⟩ := ih (kept.push chunk) left more
    refine ⟨last, blank, ?_, rest⟩
    rw [List.map_cons, List.cons_append, pull_of_waiting d taken]
    exact pulled

theorem pull_of_refused_word {d : Decoder α} {text : Bytes} {fault : Fault} (word : Word text)
    (refused : d.decode (.text Decoder.textRoom) (.broken .wordCutOff) = .error fault)
    (settled : fault.category ≠ .cutOff) (events : List Event) {feed : Feed} {chunks : List Bytes}
    {blank back : Bytes} (tracks : feed.Tracks) (blanks : Blank blank) (missing : back ≠ [])
    (whole : blank ++ text = feed.pending ++ chunks.flatten ++ back) (begun : back.length < text.length) :
    (feed.pull d (chunks.map .chunk ++ events)).1 = .refused fault := by
  induction chunks generalizing feed blank with
  | nil =>
    rw [List.flatten_nil, List.append_nil] at whole
    rcases front_cases blanks whole with ⟨others, _, _, rfl⟩ | ⟨front, some, there, rfl⟩
    · rw [List.length_append] at begun
      omega
    · have taken := take_of_word d tracks blanks some missing word there refused
      rw [if_neg settled] at taken
      rw [pull_of_settled d taken nofun]
  | cons chunk chunks ih =>
    rw [List.append_assoc] at whole
    rcases front_cases blanks whole with ⟨others, all, left, same⟩ | ⟨front, some, there, rfl⟩
    · rw [List.map_cons, List.cons_append, pull_of_waiting d (take_of_blank d tracks all)]
      refine ih (tracks_keep chunk) left ?_
      rw [← same, List.flatten_cons]
      rfl
    · have taken := take_of_word d tracks blanks some (by simp [missing]) word there refused
      rw [if_neg settled] at taken
      rw [pull_of_settled d taken nofun]

theorem finish_of_blank (d : Decoder α) {feed : Feed} (blanks : Blank feed.pending) :
    (feed.finish d).1 = .ended := by
  rw [finish, if_pos blanks.all_isBlank]

theorem finish_of_part (d : Decoder α) (attentive : d.Attentive) {feed : Feed} {text blank back : Bytes}
    (breaks : Breaks text) (blanks : Blank blank) (missing : back ≠ [])
    (whole : blank ++ text = feed.pending ++ back) (begun : back.length < text.length) :
    ∃ fault, (feed.finish d).1 = .refused fault := by
  rcases front_cases blanks whole with ⟨others, _, _, rfl⟩ | ⟨front, some, there, same⟩
  · rw [List.length_append] at begun
    omega
  · obtain ⟨fault, refused⟩ := d.refuses_torn (breaks.torn blanks some missing same)
    refine ⟨fault, ?_⟩
    rw [finish, there, if_neg (breaks.begun some same), Decoder.ofText_eq, refused]
    rfl

theorem take_kinds (d : Decoder α) (feed : Feed) :
    (feed.take d).1 = .waiting ∨ (∃ a, (feed.take d).1 = .value a) ∨
      ∃ fault, (feed.take d).1 = .refused fault := by
  rcases taken : feed.take d with ⟨answer, after⟩
  cases taken_of_take d taken <;> simp

theorem take_gives_less (d : Decoder α) {feed after : Feed} {a : α} (tracks : feed.Tracks)
    (taken : feed.take d = (.value a, after)) : after.pending.length < feed.pending.length := by
  cases taken_of_take d taken with
  | text ends _ =>
    rw [tracks.resume] at ends
    have bounds := Extent.ends_bounds ends
    have zero : Extent.start.seen = 0 := rfl
    simp only [keep, List.length_drop]
    omega
  | bare bare found _ =>
    have solid := solid_of_bare bare
    have some : feed.pending ≠ [] := by
      intro none
      rw [none] at solid
      cases solid
    exact Decoder.ofFront_less found some

theorem pull_failing (d : Decoder α) (reason : String) (later : List Event) {feed : Feed}
    {chunks : List Bytes} (tracks : feed.Tracks) :
    (∃ fault, (feed.pull d (chunks.map .chunk ++ .failed reason :: later)).1 = .refused fault) ∨
      (feed.pull d (chunks.map .chunk ++ .failed reason :: later)).1 = .broken reason ∨
      ∃ (a : α) (after : Feed) (others : List Bytes),
        feed.pull d (chunks.map .chunk ++ .failed reason :: later) =
          (.value a, after, others.map .chunk ++ .failed reason :: later) ∧
        after.Tracks ∧ after.closed = false ∧
        (after.pending ++ others.flatten).length < (feed.pending ++ chunks.flatten).length := by
  induction chunks generalizing feed with
  | nil =>
    rcases taken : feed.take d with ⟨found, kept⟩
    have kinds := take_kinds d feed
    rw [taken] at kinds
    rcases kinds with rfl | ⟨a, rfl⟩ | ⟨fault, rfl⟩
    · rw [List.map_nil, List.nil_append, pull_of_waiting d taken]
      exact .inr (.inl rfl)
    · obtain ⟨opened, keeps, _⟩ := take_gives d taken
      refine .inr (.inr ⟨a, kept, [], pull_of_settled d taken nofun _, keeps, opened, ?_⟩)
      simpa using take_gives_less d tracks taken
    · rw [pull_of_settled d taken nofun]
      exact .inl ⟨fault, rfl⟩
  | cons chunk chunks ih =>
    rcases taken : feed.take d with ⟨found, kept⟩
    have kinds := take_kinds d feed
    rw [taken] at kinds
    rcases kinds with rfl | ⟨a, rfl⟩ | ⟨fault, rfl⟩
    · rw [List.map_cons, List.cons_append, pull_of_waiting d taken]
      obtain ⟨keeps, blanks, _, whole⟩ := take_drops d tracks taken
      have less := congrArg List.length whole
      rw [List.length_append] at less
      rcases ih (keeps.push chunk) with refused | broken | ⟨a, after, others, pulled, rest⟩
      · exact .inl refused
      · exact .inr (.inl broken)
      · refine .inr (.inr ⟨a, after, others, pulled, rest.1, rest.2.1, ?_⟩)
        have shorter := rest.2.2
        simp only [push, List.flatten_cons, List.length_append] at shorter ⊢
        omega
    · obtain ⟨opened, keeps, _⟩ := take_gives d taken
      refine .inr (.inr ⟨a, kept, chunk :: chunks, pull_of_settled d taken nofun _, keeps, opened, ?_⟩)
      have less := take_gives_less d tracks taken
      simp only [List.length_append]
      omega
    · rw [pull_of_settled d taken nofun]
      exact .inl ⟨fault, rfl⟩

theorem answers_of_failing (d : Decoder α) (reason : String) (later : List Event) {feed : Feed}
    {chunks : List Bytes} (tracks : feed.Tracks) (opened : feed.closed = false) :
    ∃ (others : List α) (last : Answer α), (last = .broken reason ∨ ∃ fault, last = .refused fault) ∧
      feed.answers d (chunks.map .chunk ++ .failed reason :: later) (others.length + 1) =
        others.map .value ++ [last] := by
  -- each value takes something off what is left, in the buffer or in chunks
  induction size : (feed.pending ++ chunks.flatten).length using Nat.strongRecOn
    generalizing feed chunks with
  | ind size ih =>
    rcases pull_failing d reason later tracks with ⟨fault, refused⟩ | broken |
      ⟨a, after, rest, pulled, tracks, stays, less⟩
    · refine ⟨[], .refused fault, .inr ⟨fault, rfl⟩, ?_⟩
      rw [answers_succ d (next_of_open d opened _), refused]
      rfl
    · refine ⟨[], .broken reason, .inl rfl, ?_⟩
      rw [answers_succ d (next_of_open d opened _), broken]
      rfl
    · obtain ⟨others, last, kind, told⟩ := ih _ (size ▸ less) tracks stays rfl
      refine ⟨a :: others, last, kind, ?_⟩
      rw [← next_of_open d opened] at pulled
      rw [List.length_cons, answers_succ d pulled, told, List.map_cons, List.cons_append]

/-- When the first values of a body are told, this feed is left, and these events. -/
structure Reaches (d : Decoder α) (body : List Event) (values : List α) (after : Feed)
    (events : List Event) : Prop where
  tracks : after.Tracks
  opened : after.closed = false
  told : ∀ calls, start.answers d body (values.length + calls) =
    values.map .value ++ after.answers d events calls

theorem answers_of_opens {d : Decoder α} (ending : List Event) {values : List α}
    {bytes rest : Bytes} (opens : Opens d values bytes rest) {feed : Feed} {chunks : List Bytes}
    (tracks : feed.Tracks) (opened : feed.closed = false)
    (whole : feed.pending ++ chunks.flatten = bytes) :
    ∃ (after : Feed) (others : List Bytes), after.Tracks ∧ after.closed = false ∧
      after.pending ++ others.flatten = rest ∧ ∀ calls,
        feed.answers d (chunks.map .chunk ++ ending) (values.length + calls) =
          values.map .value ++ after.answers d (others.map .chunk ++ ending) calls := by
  induction opens generalizing feed chunks with
  | rest => exact ⟨feed, chunks, tracks, opened, whole, fun calls => by simp⟩
  | @text _ _ blank text bytes rest blanks enclosed decoded _ ih =>
    have serves : Serves (fun _ => False) d ending text bytes := serves_of_enclosed d ending enclosed bytes
    obtain ⟨taken, others, rfl, comes⟩ := serves.comes tracks blanks whole False.elim
    cases comes with
    | value again past pulled =>
      cases decoded.symm.trans again
      rw [← next_of_open d opened] at pulled
      have all : feed.pending ++ (taken ++ others).flatten = joined ([(blank, text)] ++ []) bytes :=
        whole.trans (joined_cons (blank, text) [] bytes).symm
      obtain ⟨after, chunks, keeps, stays, same, told⟩ :=
        ih past.tracks past.opened (past.left all)
      refine ⟨after, chunks, keeps, stays, same, fun calls => ?_⟩
      rw [List.length_cons, Nat.add_right_comm, answers_succ d pulled, told, List.map_cons,
        List.cons_append]
    | refused again => cases decoded.symm.trans again

theorem reaches_of_opens {d : Decoder α} {values : List α} {chunks : List Bytes} {rest : Bytes}
    (opens : Opens d values chunks.flatten rest) (ending : List Event) :
    ∃ (after : Feed) (others : List Bytes), after.pending ++ others.flatten = rest ∧
      Reaches d (chunks.map .chunk ++ ending) values after (others.map .chunk ++ ending) := by
  obtain ⟨after, others, tracks, opened, left, told⟩ :=
    answers_of_opens ending opens (tracks_keep []) rfl (List.nil_append _)
  exact ⟨after, others, left, tracks, opened, told⟩

theorem Reaches.tells {d : Decoder α} {body events : List Event} {values others : List α}
    {after : Feed} {last : Answer α} (reaches : Reaches d body values after events)
    (settled : last ≠ .waiting) (final : ∀ a, last ≠ .value a)
    (told : after.answers d events (others.length + 1) = others.map .value ++ [last]) :
    Tells d body (values ++ others) last := by
  intro more
  apply answers_of_last d settled final
  rw [List.length_append, Nat.add_assoc, reaches.told, told, List.map_append, List.append_assoc]

theorem Reaches.tells_next {d : Decoder α} {body events : List Event} {values : List α}
    {after : Feed} {last : Answer α} (reaches : Reaches d body values after events)
    (settled : last ≠ .waiting) (final : ∀ a, last ≠ .value a)
    (pulled : (after.pull d events).1 = last) : Tells d body values last := by
  have one : after.answers d events 1 = [last] := by
    rw [answers_succ d (next_of_open d reaches.opened _), pulled]
    rfl
  have told : Tells d body (values ++ []) last := reaches.tells settled final one
  rwa [List.append_nil] at told

end Feed

section Endings

variable {d : Decoder α} {values : List α} {rest : Bytes} {chunks : List Bytes}

theorem pull_of_blank {blank : Bytes} (blanks : Blank blank) (event : Event) (later : List Event)
    {feed : Feed} {chunks : List Bytes} (tracks : feed.Tracks)
    (whole : feed.pending ++ chunks.flatten = blank) :
    ∃ after : Feed, feed.pull d (chunks.map .chunk ++ event :: later) = after.onEvent d later event ∧
      Blank after.pending := by
  have empty : Enclosed [Ascii.quote, Ascii.quote] := ⟨@Spells.string [] .nil, rfl⟩
  obtain ⟨after, others, pulled, left, same⟩ := Feed.pull_of_waits (Feed.waits_of_enclosed d empty)
    event later tracks blanks (by simp) (congrArg (· ++ _) whole.symm)
  exact ⟨after, pulled, List.append_cancel_right same ▸ left⟩

theorem tells_end (opens : Opens d values chunks.flatten rest) (blanks : Blank rest)
    {ending : Event} (proper : ending = .finished ∨ ending = .cutOff) (later : List Event) :
    Tells d (chunks.map .chunk ++ ending :: later) values .ended := by
  obtain ⟨after, others, left, reaches⟩ := Feed.reaches_of_opens opens (ending :: later)
  obtain ⟨last, pulled, blanks⟩ := pull_of_blank (d := d) blanks ending later reaches.tracks left
  have ended := Feed.finish_of_blank d blanks
  refine reaches.tells_next nofun nofun ?_
  rw [pulled]
  rcases proper with rfl | rfl <;> exact ended

theorem tells_refusal (attentive : d.Attentive) {kind : Bytes → Prop} (opens : Opens d values chunks.flatten rest)
    (cut : CutShort kind rest) (breaks : ∀ text, kind text → Breaks text)
    (waits : ∀ text, kind text → Feed.Waits d text) {ending : Event}
    (proper : ending = .finished ∨ ending = .cutOff) (later : List Event) :
    ∃ fault, Tells d (chunks.map .chunk ++ ending :: later) values (.refused fault) := by
  obtain ⟨blank, front, back, blanks, some, missing, known, rfl⟩ := cut
  obtain ⟨after, others, left, reaches⟩ := Feed.reaches_of_opens opens (ending :: later)
  obtain ⟨last, blank, pulled, blanks, whole⟩ := Feed.pull_of_waits (waits _ known) ending later
    reaches.tracks blanks missing (by rw [left, List.append_assoc])
  have begun : back.length < (front ++ back).length := by
    simpa using List.length_pos_iff.mpr some
  obtain ⟨fault, refused⟩ := Feed.finish_of_part d attentive (breaks _ known) blanks missing whole begun
  refine ⟨fault, reaches.tells_next nofun nofun ?_⟩
  rw [pulled]
  rcases proper with rfl | rfl <;> exact refused

/-- What is left lets the feed come to whatever follows the chunks. -/
def Stalls (d : Decoder α) (rest : Bytes) : Prop :=
  ∀ (event : Event) (later : List Event) {feed : Feed} {chunks : List Bytes}, feed.Tracks →
    feed.pending ++ chunks.flatten = rest →
    ∃ after : Feed, feed.pull d (chunks.map .chunk ++ event :: later) = after.onEvent d later event

theorem stalls_of_blank (d : Decoder α) (blanks : Blank rest) : Stalls d rest := by
  intro event later feed chunks tracks whole
  obtain ⟨after, pulled, _⟩ := pull_of_blank (d := d) blanks event later tracks whole
  exact ⟨after, pulled⟩

theorem stalls_of_cutShort {kind : Bytes → Prop} (cut : CutShort kind rest)
    (waits : ∀ text, kind text → Feed.Waits d text) : Stalls d rest := by
  obtain ⟨blank, front, back, blanks, _, missing, known, rfl⟩ := cut
  intro event later feed chunks tracks whole
  obtain ⟨after, _, pulled, _⟩ := Feed.pull_of_waits (waits _ known) event later tracks blanks
    missing (by rw [whole, List.append_assoc])
  exact ⟨after, pulled⟩

theorem tells_failure (opens : Opens d values chunks.flatten rest) (stalls : Stalls d rest)
    (reason : String) (later : List Event) :
    Tells d (chunks.map .chunk ++ .failed reason :: later) values (.broken reason) := by
  obtain ⟨after, others, left, reaches⟩ := Feed.reaches_of_opens opens (.failed reason :: later)
  obtain ⟨last, pulled⟩ := stalls (.failed reason) later reaches.tracks left
  refine reaches.tells_next nofun nofun ?_
  rw [pulled]
  rfl

theorem refused_word (d : Decoder α) (attentive : d.Attentive) :
    ∃ fault, d.decode (.text Decoder.textRoom) (.broken .wordCutOff) = .error fault := by
  cases decoded : d.decode (.text Decoder.textRoom) (.broken .wordCutOff) with
  | error fault => exact ⟨fault, rfl⟩
  | ok a =>
    have passed : (Document.broken .wordCutOff).skip = .ok () :=
      Decoder.Attentive.skips trivial decoded
    exact absurd passed (Document.torn_broken _)

theorem tells_refused_word (attentive : d.Attentive) (opens : Opens d values chunks.flatten rest)
    (cut : CutShort Word rest) (outright : ¬Awaits d) (events : List Event) :
    ∃ fault, Tells d (chunks.map .chunk ++ events) values (.refused fault) := by
  obtain ⟨blank, front, back, blanks, some, missing, word, rfl⟩ := cut
  obtain ⟨fault, refused⟩ := refused_word d attentive
  have settled : fault.category ≠ .cutOff := fun cutOff => outright ⟨fault, refused, cutOff⟩
  have begun : back.length < (front ++ back).length := by
    simpa using List.length_pos_iff.mpr some
  obtain ⟨after, others, left, reaches⟩ := Feed.reaches_of_opens opens events
  refine ⟨fault, reaches.tells_next nofun nofun ?_⟩
  exact Feed.pull_of_refused_word word refused settled events reaches.tracks blanks missing
    (by rw [left, List.append_assoc]) begun

end Endings

/-- After the values of a body and blanks, the body is over however it ends. After a part of another text
it is refused, if the decoder passes on that the text is torn. Where it fails it tells one error, and no
end before that: the failure itself, unless what is left is refused first. -/
theorem cut_off_between_values (d : Decoder α) {values : List α} {rest : Bytes}
    {chunks : List Bytes} (opens : Opens d values chunks.flatten rest) (later : List Event) :
    let body (ending : Event) := chunks.map Event.chunk ++ ending :: later
    (∀ ending, ending = .finished ∨ ending = .cutOff →
      (Blank rest → Tells d (body ending) values .ended) ∧
      (d.Attentive → CutShort Enclosed rest ∨ CutShort Word rest →
        ∃ fault, Tells d (body ending) values (.refused fault))) ∧
    ∀ reason,
      (∃ others last, (last = .broken reason ∨ ∃ fault, last = .refused fault) ∧
        Tells d (body (.failed reason)) (values ++ others) last) ∧
      (Blank rest ∨ CutShort Enclosed rest ∨ CutShort Word rest ∧ Awaits d →
        Tells d (body (.failed reason)) values (.broken reason)) ∧
      (d.Attentive → CutShort Word rest ∧ ¬Awaits d →
        ∃ fault, Tells d (body (.failed reason)) values (.refused fault)) := by
  refine ⟨fun ending proper => ⟨fun blanks => tells_end opens blanks proper later, ?_⟩,
    fun reason => ⟨?_, ?_, ?_⟩⟩
  · rintro attentive (cut | cut)
    · exact tells_refusal attentive opens cut (fun _ => breaks_of_enclosed)
        (fun _ => Feed.waits_of_enclosed d) proper later
    -- a literal that breaks off is waited for to the end, or refused as soon as it is seen
    · by_cases awaits : Awaits d
      · exact tells_refusal attentive opens cut (fun _ => breaks_of_word)
          (fun _ => Feed.waits_of_word awaits) proper later
      · exact tells_refused_word attentive opens cut awaits _
  · obtain ⟨after, chunks, left, reaches⟩ := Feed.reaches_of_opens opens (.failed reason :: later)
    obtain ⟨others, last, kind, told⟩ :=
      Feed.answers_of_failing d reason later reaches.tracks reaches.opened
    have ends : last ≠ .waiting ∧ ∀ a, last ≠ .value a := by
      rcases kind with rfl | ⟨fault, rfl⟩ <;> exact ⟨nofun, nofun⟩
    exact ⟨others, last, kind, reaches.tells ends.1 ends.2 told⟩
  · rintro (blanks | cut | ⟨cut, awaits⟩)
    · exact tells_failure opens (stalls_of_blank d blanks) reason later
    · exact tells_failure opens (stalls_of_cutShort cut fun _ => Feed.waits_of_enclosed d) reason later
    · exact tells_failure opens (stalls_of_cutShort cut fun _ => Feed.waits_of_word awaits) reason later
  · rintro attentive ⟨cut, outright⟩
    exact tells_refused_word attentive opens cut outright _

/-- A list and then a part of another one, cut in a string; the same body cut off and failing. -/
theorem cut_off_between_values_list :
    (∃ fault, Tells Decoder.text.list
      [.chunk [0x5B, 0x22], .chunk [0x22, 0x5D, 0x20, 0x5B], .chunk [0x22], .cutOff] [[""]]
      (.refused fault)) ∧
    Tells Decoder.text.list
      [.chunk [0x5B, 0x22], .chunk [0x22, 0x5D, 0x20, 0x5B], .chunk [0x22], .failed "reset"] [[""]]
      (.broken "reset") := by
  have item : Spells .value [0x22, 0x22] := @Spells.string [] .nil
  have padded : Spells .padded [0x22, 0x22] := @Spells.padded [] _ [] rfl item rfl
  have list : Enclosed [0x5B, 0x22, 0x22, 0x5D] := ⟨@Spells.list [0x22, 0x22] (.lastItem padded), rfl⟩
  have opens : Opens Decoder.text.list [[""]]
      [[0x5B, 0x22], [0x22, 0x5D, 0x20, 0x5B], [0x22]].flatten [0x20, 0x5B, 0x22] :=
    @Opens.text _ _ _ _ [] [0x5B, 0x22, 0x22, 0x5D] _ _ rfl list rfl .rest
  have cut : CutShort Enclosed [0x20, 0x5B, 0x22] :=
    ⟨[0x20], [0x5B, 0x22], [0x22, 0x5D], rfl, nofun, nofun, list, rfl⟩
  have told := cut_off_between_values Decoder.text.list opens []
  exact ⟨(told.1 .cutOff (.inr rfl)).2 inferInstance (.inl cut), (told.2 "reset").2.1 (.inr (.inl cut))⟩

/-- A closer that closes nothing is refused before the failure that comes after it. And a decoder that
takes whatever there is takes a list that breaks off. -/
theorem stray_closer_refused_first :
    (Opens Decoder.any [.object []] [[0x7B, 0x7D], [0x7D]].flatten [0x7D] ∧
      Tells Decoder.any [.chunk [0x7B, 0x7D], .chunk [0x7D], .failed "reset"] [.object []]
        (.refused (.malformed .noValue)) ∧
      ¬Tells Decoder.any [.chunk [0x7B, 0x7D], .chunk [0x7D], .failed "reset"] [.object []]
        (.broken "reset")) ∧
    CutShort Enclosed [0x5B] ∧
      ¬∃ fault, Tells (⟨fun _ _ => .ok ()⟩ : Decoder Unit) [.chunk [0x5B], .cutOff] []
        (.refused fault) := by
  have object : Enclosed [0x7B, 0x7D] := ⟨@Spells.noMembers [] rfl, rfl⟩
  have list : Enclosed [0x5B, 0x5D] := ⟨@Spells.noItems [] rfl, rfl⟩
  refine ⟨⟨?_, ?_, ?_⟩, ⟨[], [0x5B], [0x5D], rfl, nofun, nofun, list, rfl⟩, ?_⟩
  · exact @Opens.text _ _ _ _ [] [0x7B, 0x7D] _ _ rfl object rfl .rest
  · exact Feed.answers_of_last _ nofun nofun rfl
  · intro told
    cases told 0
  · rintro ⟨fault, told⟩
    cases told 0

end TezosNode.Body
