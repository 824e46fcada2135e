import TezosNode.Proofs.Body.Resumption
import TezosNode.Proofs.Json.Reading

/-!
Bodies of strings, lists and objects with blanks between them. However such a body is cut, the feed
gives what each text decodes to, in order, up to the first one that is refused, and then nothing more.
The invariant: the extent of a feed is what looking at some front of its buffer found.
-/

namespace TezosNode.Body

open Decode Json

def joined (parts : List (Bytes × Bytes)) (tail : Bytes) : Bytes :=
  parts.flatMap (fun part => part.1 ++ part.2) ++ tail

theorem joined_cons (part : Bytes × Bytes) (parts : List (Bytes × Bytes)) (tail : Bytes) :
    joined (part :: parts) tail = part.1 ++ part.2 ++ joined parts tail := by
  simp [joined]

theorem joined_append (parts others : List (Bytes × Bytes)) (tail : Bytes) :
    joined (parts ++ others) tail = joined parts (joined others tail) := by
  simp [joined]

theorem length_joined (parts : List (Bytes × Bytes)) (tail : Bytes) :
    (joined parts tail).length = (joined parts []).length + tail.length := by
  simp [joined]

/-- The answers that texts deserve, up to the first one that is refused. -/
def verdicts (d : Decoder α) : List Bytes → List (Answer α)
  | [] => []
  | text :: texts =>
    match d.ofText text with
    | .ok a => .value a :: verdicts d texts
    | .error fault => [.refused fault]

namespace Feed

/-- What was looked at is a front of the buffer, and no end was found in it. -/
def Tracks (feed : Feed) : Prop :=
  ∃ front back, feed.pending = front ++ back ∧ Extent.start.scan front = (feed.extent, .unfinished)

theorem tracks_keep (rest : Bytes) : Tracks (keep rest) := ⟨[], rest, rfl, rfl⟩

theorem Tracks.push {feed : Feed} (tracks : feed.Tracks) (bytes : Bytes) :
    (feed.push bytes).Tracks := by
  obtain ⟨front, back, whole, found⟩ := tracks
  refine ⟨front, back ++ bytes, ?_, found⟩
  rw [Feed.push, whole, List.append_assoc]

theorem Tracks.resume {feed : Feed} (tracks : feed.Tracks) :
    feed.extent.resume feed.pending = Extent.start.scan feed.pending := by
  obtain ⟨front, back, whole, found⟩ := tracks
  rw [← Extent.resume_start] at found ⊢
  rw [whole, Extent.resume_append_of_unfinished found]

theorem take_of_ends (d : Decoder α) {feed : Feed} (tracks : feed.Tracks) {after : Extent}
    {length : Nat} (ends : Extent.start.scan feed.pending = (after, .ends length)) :
    feed.take d =
      match d.ofText (feed.pending.take length) with
      | .ok a => (.value a, keep (feed.pending.drop length))
      | .error fault => (.refused fault, (keep (feed.pending.drop length)).close) := by
  cases read : d.ofText (feed.pending.take length) with
  | error fault => simp only [Feed.take, tracks.resume, ends, read]
  | ok a => simp only [Feed.take, tracks.resume, ends, read]

theorem take_of_unfinished (d : Decoder α) {feed : Feed} (tracks : feed.Tracks) {after : Extent}
    (unfinished : Extent.start.scan feed.pending = (after, .unfinished)) :
    feed.take d = (.waiting, if after.isIdle then start else { feed with extent := after }) := by
  rw [Feed.take, tracks.resume, unfinished]

theorem scan_front {blank text front back : Bytes} (blanks : Blank blank) (enclosed : Enclosed text)
    (whole : blank ++ text = front ++ back) (missing : back ≠ []) :
    ∃ after, Extent.start.scan front = (after, .unfinished) := by
  obtain ⟨stopped, ends⟩ := Extent.scan_enclosed blanks enclosed []
  rw [List.append_nil, whole] at ends
  cases found : Extent.start.scan front with
  | mk after report =>
    by_cases settled : report = .unfinished
    · exact ⟨after, by rw [settled]⟩
    · rw [Extent.scan_append_of_found found settled] at ends
      cases ends
      have bound := (Extent.ends_bounds found).2
      have positive := List.length_pos_iff.mpr missing
      simp only [Extent.start, List.length_append] at bound
      omega

theorem blank_of_front {blank text front back : Bytes} (enclosed : Enclosed text)
    (whole : blank ++ text = front ++ back) (all : front.all Ascii.isBlank = true) :
    ∃ others, blank = front ++ others ∧ back = others ++ text := by
  rcases List.append_eq_append_iff.mp whole with ⟨extra, rfl, rfl⟩ | ⟨others, rfl, rfl⟩
  · cases extra with
    | nil => exact ⟨[], by simp, rfl⟩
    | cons b extra =>
      have opens : isOpening b = true := by simpa using enclosed.opening
      have isBlank : Ascii.isBlank b = true := by simp at all; exact all.2.1
      have opening : b = Ascii.quote ∨ b = Ascii.openBracket ∨ b = Ascii.openBrace := by
        simpa [isOpening, or_assoc] using opens
      rcases opening with rfl | rfl | rfl <;> exact absurd isBlank (by decide)
  · exact ⟨others, rfl, rfl⟩

theorem take_of_front (d : Decoder α) {feed : Feed} {blank text back : Bytes}
    (tracks : feed.Tracks) (blanks : Blank blank) (enclosed : Enclosed text)
    (whole : blank ++ text = feed.pending ++ back) (missing : back ≠ []) :
    ∃ after others, feed.take d = (.waiting, after) ∧ after.Tracks ∧ Blank others ∧
      others ++ text = after.pending ++ back := by
  obtain ⟨extent, unfinished⟩ := scan_front blanks enclosed whole missing
  have waiting := take_of_unfinished d tracks unfinished
  by_cases idle : extent.isIdle = true
  · obtain ⟨others, rfl, rfl⟩ :=
      blank_of_front enclosed whole (Extent.blank_of_idle unfinished idle).2
    rw [if_pos idle] at waiting
    refine ⟨start, others, waiting, ⟨[], [], rfl, rfl⟩, ?_, rfl⟩
    simp only [Blank, List.all_append, Bool.and_eq_true] at blanks
    exact blanks.2
  · rw [if_neg idle] at waiting
    exact ⟨_, blank, waiting, ⟨feed.pending, [], by simp, unfinished⟩, blanks, whole⟩

/-- A feed that holds a whole text answers with what it decodes to, and keeps the rest. -/
theorem take_of_text (d : Decoder α) {feed : Feed} {blank text rest : Bytes}
    (tracks : feed.Tracks) (blanks : Blank blank) (enclosed : Enclosed text)
    (whole : feed.pending = blank ++ text ++ rest) :
    feed.take d =
      match d.ofText text with
      | .ok a => (.value a, keep rest)
      | .error fault => (.refused fault, (keep rest).close) := by
  obtain ⟨stopped, ends⟩ := Extent.scan_enclosed blanks enclosed rest
  rw [← whole] at ends
  rw [take_of_ends d tracks ends, whole, List.take_left, List.drop_left, d.ofText_blank blanks]

/-- No chunk ends between two places. Some bytes stand before the first chunk. -/
def NoneEnds (start stop : Nat) (there : Bytes) (chunks : List Bytes) : Prop :=
  ∀ first, first <+: chunks →
    (there ++ first.flatten).length ≤ start ∨ stop ≤ (there ++ first.flatten).length

/-- No chunk ends inside a text of this kind. -/
def Uncut (kind : Bytes → Prop) (parts : List (Bytes × Bytes)) (there : Bytes) (chunks : List Bytes) : Prop :=
  ∀ before part after, parts = before ++ part :: after → kind part.2 →
    NoneEnds (joined before part.1).length (joined before (part.1 ++ part.2)).length there chunks

theorem uncut_none (parts : List (Bytes × Bytes)) (there : Bytes) (chunks : List Bytes) :
    Uncut (fun _ => False) parts there chunks := fun _ _ _ _ none => none.elim

/-- How a feed deals with a text that this rest and these events follow. Where the text is whole, the feed
answers with what it decodes to and keeps what is there of the rest, or it comes to refuse it. Where it is
not, the feed waits, or refuses it already. A text of this kind is there as a whole or not at all. -/
structure Serves (kind : Bytes → Prop) (d : Decoder α) (ending : List Event) (text rest : Bytes) : Prop where
  whole : ∀ {feed : Feed} {blank there : Bytes} {chunks : List Bytes}, feed.Tracks → Blank blank →
    there ++ chunks.flatten = rest → feed.pending = blank ++ text ++ there →
    (∃ a, d.ofText text = .ok a ∧ feed.take d = (.value a, keep there)) ∨
      ∃ fault after left, d.ofText text = .error fault ∧ after.closed = true ∧
        feed.pull d (chunks.map .chunk ++ ending) = (.refused fault, after, left)
  part : ∀ {feed : Feed} {blank back : Bytes}, feed.Tracks → Blank blank → back ≠ [] →
    blank ++ text = feed.pending ++ back → (kind text → text.length ≤ back.length) →
    (∃ after others, feed.take d = (.waiting, after) ∧ after.Tracks ∧ Blank others ∧
      others ++ text = after.pending ++ back) ∨
      ∃ fault after, d.ofText text = .error fault ∧ feed.take d = (.refused fault, after) ∧
        after.closed = true

theorem serves_of_enclosed {kind : Bytes → Prop} (d : Decoder α) (ending : List Event) {text : Bytes}
    (enclosed : Enclosed text) (rest : Bytes) : Serves kind d ending text rest where
  whole := by
    intro feed blank there chunks tracks blanks _ whole
    have taken := take_of_text d tracks blanks enclosed whole
    cases decoded : d.ofText text with
    | ok a =>
      rw [decoded] at taken
      exact .inl ⟨a, rfl, taken⟩
    | error fault =>
      rw [decoded] at taken
      exact .inr ⟨fault, _, _, rfl, rfl, pull_of_settled d taken nofun _⟩
  part := by
    intro feed blank back tracks blanks missing whole _
    exact .inl (take_of_front d tracks blanks enclosed whole missing)

/-- A feed past these texts. The bytes that were there before and the chunks taken are the texts and what
is there now, and the last chunk was taken because something of the texts was missing. -/
structure Past (parts : List (Bytes × Bytes)) (before : Bytes) (taken : List Bytes) (feed : Feed) :
    Prop where
  tracks : feed.Tracks
  opened : feed.closed = false
  whole : before ++ taken.flatten = joined parts feed.pending
  needed : ∀ front chunk, taken = front ++ [chunk] →
    (before ++ front.flatten).length < (joined parts []).length

theorem past_nil {feed : Feed} (tracks : feed.Tracks) (opened : feed.closed = false) :
    Past [] feed.pending [] feed where
  tracks := tracks
  opened := opened
  whole := by simp [joined]
  needed := by
    intro front chunk same
    simp at same

theorem past_of_there {blank text there before : Bytes} (whole : before = blank ++ text ++ there) :
    Past [(blank, text)] before [] (keep there) where
  tracks := tracks_keep there
  opened := rfl
  whole := by simp [joined, keep, whole]
  needed := by
    intro front chunk same
    simp at same

theorem Past.cons {blank others text back before kept chunk : Bytes} {taken : List Bytes}
    {after : Feed} (front : blank ++ text = before ++ back) (same : others ++ text = kept ++ back)
    (missing : back ≠ []) (past : Past [(others, text)] (kept ++ chunk) taken after) :
    Past [(blank, text)] before (chunk :: taken) after where
  tracks := past.tracks
  opened := past.opened
  whole := by
    have whole : kept ++ (chunk ++ taken.flatten) = kept ++ (back ++ after.pending) := by
      calc kept ++ (chunk ++ taken.flatten)
          = joined [(others, text)] after.pending := by rw [← past.whole, List.append_assoc]
        _ = kept ++ (back ++ after.pending) := by
          rw [joined_cons, same]
          simp [joined]
    rw [List.flatten_cons, List.append_cancel_left whole, joined_cons, front]
    simp [joined]
  needed := by
    intro init last split
    have total := congrArg List.length front
    have left := congrArg List.length same
    have positive := List.length_pos_iff.mpr missing
    cases init with
    | nil =>
      simp only [List.length_append, joined_cons] at total ⊢
      simp [joined]
      omega
    | cons _ init =>
      obtain ⟨rfl, rest⟩ := List.cons.inj split
      have less := past.needed init last rest
      simp only [joined_cons, List.length_append, List.flatten_cons] at total left less ⊢
      omega

theorem Past.append {parts others : List (Bytes × Bytes)} {before : Bytes}
    {taken chunks : List Bytes} {mid after : Feed} (past : Past parts before taken mid)
    (next : Past others mid.pending chunks after) :
    Past (parts ++ others) before (taken ++ chunks) after where
  tracks := next.tracks
  opened := next.opened
  whole := by
    calc before ++ (taken ++ chunks).flatten
        = before ++ taken.flatten ++ chunks.flatten := by simp
      _ = joined parts (mid.pending ++ chunks.flatten) := by rw [past.whole]; simp [joined]
      _ = joined (parts ++ others) after.pending := by rw [next.whole, joined_append]
  needed := by
    intro front chunk same
    rw [joined_append, length_joined]
    rcases List.eq_nil_or_concat chunks with rfl | ⟨init, last, rfl⟩
    · rw [List.append_nil] at same
      have less := past.needed front chunk same
      omega
    · rw [List.concat_eq_append, ← List.append_assoc] at same
      obtain ⟨rfl, -⟩ := List.append_inj' same rfl
      have less := next.needed init last (List.concat_eq_append ..)
      have whole := congrArg List.length past.whole
      rw [length_joined] at whole
      simp only [List.length_append, List.flatten_append] at less whole ⊢
      omega

theorem Past.left {parts others : List (Bytes × Bytes)} {before tail : Bytes}
    {taken chunks : List Bytes} {after : Feed} (past : Past parts before taken after)
    (whole : before ++ (taken ++ chunks).flatten = joined (parts ++ others) tail) :
    after.pending ++ chunks.flatten = joined others tail := by
  have same : joined parts (after.pending ++ chunks.flatten) = joined parts (joined others tail) := by
    calc joined parts (after.pending ++ chunks.flatten)
        = joined parts after.pending ++ chunks.flatten := by simp [joined]
      _ = before ++ (taken ++ chunks).flatten := by rw [← past.whole]; simp
      _ = joined parts (joined others tail) := by rw [whole, joined_append]
  exact List.append_cancel_left same

theorem NoneEnds.bound {blank text there back : Bytes} {chunks : List Bytes}
    (none : NoneEnds blank.length (blank ++ text).length there chunks)
    (front : blank ++ text = there ++ back) (missing : back ≠ []) : text.length ≤ back.length := by
  have total := congrArg List.length front
  have positive := List.length_pos_iff.mpr missing
  have outside := none [] (List.nil_prefix)
  simp only [List.flatten_nil, List.append_nil, List.length_append] at total outside
  omega

theorem NoneEnds.push {blank others text back before kept chunk : Bytes} {chunks : List Bytes}
    (front : blank ++ text = before ++ back) (same : others ++ text = kept ++ back)
    (none : NoneEnds blank.length (blank ++ text).length before (chunk :: chunks)) :
    NoneEnds others.length (others ++ text).length (kept ++ chunk) chunks := by
  intro first initial
  have total := congrArg List.length front
  have left := congrArg List.length same
  have outside := none (chunk :: first) ((List.cons_prefix_cons).mpr ⟨rfl, initial⟩)
  simp only [List.length_append, List.flatten_cons] at total left outside ⊢
  omega

theorem Uncut.head {kind : Bytes → Prop} {part : Bytes × Bytes} {parts : List (Bytes × Bytes)}
    {there : Bytes} {chunks : List Bytes} (uncut : Uncut kind (part :: parts) there chunks)
    (known : kind part.2) : NoneEnds part.1.length (part.1 ++ part.2).length there chunks :=
  uncut [] part parts rfl known

theorem Uncut.tail {kind : Bytes → Prop} {part : Bytes × Bytes} {parts : List (Bytes × Bytes)}
    {there : Bytes} {taken chunks : List Bytes} {after : Feed}
    (uncut : Uncut kind (part :: parts) there (taken ++ chunks)) (past : Past [part] there taken after) :
    Uncut kind parts after.pending chunks := by
  intro before other later split known first initial
  have whole := congrArg List.length past.whole
  have outside := uncut (part :: before) other later (by rw [split, List.cons_append]) known
    (taken ++ first) ((List.prefix_append_right_inj taken).mpr initial)
  simp only [joined_cons, List.flatten_append, List.length_append] at whole outside ⊢
  simp only [joined, List.flatMap_nil, List.nil_append] at whole outside ⊢
  omega

/-- A text is come to: these chunks are taken for it, and the others are left if it is a value. -/
inductive Comes (d : Decoder α) (ending : List Event) (feed : Feed) (blank text : Bytes)
    (chunks taken others : List Bytes) : Prop where
  | value {a : α} {after : Feed} : d.ofText text = .ok a →
      Past [(blank, text)] feed.pending taken after →
      feed.pull d (chunks.map .chunk ++ ending) = (.value a, after, others.map .chunk ++ ending) →
      Comes d ending feed blank text chunks taken others
  | refused {fault : Fault} {after : Feed} {left : List Event} : d.ofText text = .error fault →
      after.closed = true → feed.pull d (chunks.map .chunk ++ ending) = (.refused fault, after, left) →
      Comes d ending feed blank text chunks taken others

section

variable {kind : Bytes → Prop} {d : Decoder α} {ending : List Event} {text rest : Bytes}

theorem Serves.comes_there (serves : Serves kind d ending text rest) {feed : Feed} {blank there : Bytes}
    {chunks : List Bytes} (tracks : feed.Tracks) (blanks : Blank blank)
    (split : there ++ chunks.flatten = rest) (whole : feed.pending = blank ++ text ++ there) :
    Comes d ending feed blank text chunks [] chunks := by
  rcases serves.whole tracks blanks split whole with
    ⟨a, decoded, taken⟩ | ⟨fault, after, left, decoded, closed, pulled⟩
  · exact .value decoded (past_of_there whole) (pull_of_settled d taken nofun _)
  · exact .refused decoded closed pulled

theorem Comes.cons {feed kept : Feed} {blank others back chunk : Bytes}
    {chunks taken left : List Bytes} (waiting : feed.take d = (.waiting, kept))
    (front : blank ++ text = feed.pending ++ back) (same : others ++ text = kept.pending ++ back)
    (missing : back ≠ []) (comes : Comes d ending (kept.push chunk) others text chunks taken left) :
    Comes d ending feed blank text (chunk :: chunks) (chunk :: taken) left := by
  have pulled := pull_of_waiting d waiting (.chunk chunk) (chunks.map .chunk ++ ending)
  cases comes with
  | value decoded past later => exact .value decoded (past.cons front same missing) (pulled.trans later)
  | refused decoded closed later => exact .refused decoded closed (pulled.trans later)

theorem Serves.comes (serves : Serves kind d ending text rest) {feed : Feed} {chunks : List Bytes}
    {blank : Bytes} (tracks : feed.Tracks) (blanks : Blank blank)
    (whole : feed.pending ++ chunks.flatten = blank ++ text ++ rest)
    (uncut : kind text → NoneEnds blank.length (blank ++ text).length feed.pending chunks) :
    ∃ taken others, chunks = taken ++ others ∧ Comes d ending feed blank text chunks taken others := by
  induction chunks generalizing feed blank with
  | nil =>
    have all : feed.pending = blank ++ text ++ rest := by simpa using whole
    exact ⟨[], [], rfl, serves.comes_there tracks blanks (by simp) all⟩
  | cons chunk chunks ih =>
    -- either the text is there already, or the next chunk brings more of it
    rcases List.append_eq_append_iff.mp whole with ⟨back, front, later⟩ | ⟨there, whole, split⟩
    · by_cases missing : back = []
      · subst missing
        rw [List.append_nil] at front
        have there : feed.pending = blank ++ text ++ [] := by rw [front, List.append_nil]
        exact ⟨[], _, rfl, serves.comes_there tracks blanks (by simpa using later) there⟩
      · have bound (known : kind text) := (uncut known).bound front missing
        rcases serves.part tracks blanks missing front bound with
          ⟨kept, others, waiting, stays, blanks, same⟩ | ⟨fault, after, decoded, taken, closed⟩
        · have more : (kept.push chunk).pending ++ chunks.flatten = others ++ text ++ rest := by
            rw [same, List.append_assoc, ← later, push, List.flatten_cons, List.append_assoc]
          obtain ⟨taken, left, split, comes⟩ := ih (stays.push chunk) blanks more fun known =>
            (uncut known).push front same
          exact ⟨chunk :: taken, left, by rw [split, List.cons_append],
            comes.cons waiting front same missing⟩
        · exact ⟨[], _, rfl, .refused decoded closed (pull_of_settled d taken nofun _)⟩
    · exact ⟨[], _, rfl, serves.comes_there tracks blanks split.symm whole⟩

end

/-- After so many texts a feed is past all of them, or one of them was refused and it is closed. -/
inductive Done (d : Decoder α) (ending : List Event) (parts : List (Bytes × Bytes)) (before : Bytes)
    (chunks : List Bytes) (after : Feed) (left : List Event) : Prop where
  | past {taken others : List Bytes} : (∀ part ∈ parts, ∃ a, d.ofText part.2 = .ok a) →
      chunks = taken ++ others → left = others.map .chunk ++ ending → Past parts before taken after →
      Done d ending parts before chunks after left
  | refused : (∃ part ∈ parts, ∃ fault, d.ofText part.2 = .error fault) → after.closed = true →
      Done d ending parts before chunks after left

theorem Done.cons {d : Decoder α} {ending left : List Event} {part : Bytes × Bytes}
    {parts : List (Bytes × Bytes)} {before : Bytes} {taken chunks : List Bytes} {mid after : Feed} {a : α}
    (decoded : d.ofText part.2 = .ok a) (past : Past [part] before taken mid)
    (done : Done d ending parts mid.pending chunks after left) :
    Done d ending (part :: parts) before (taken ++ chunks) after left := by
  cases done with
  | past accepted same events later =>
    refine .past ?_ ?_ events (past.append later)
    · exact List.forall_mem_cons.mpr ⟨⟨a, decoded⟩, accepted⟩
    · rw [same, List.append_assoc]
  | refused refused closed =>
    obtain ⟨other, member, fault⟩ := refused
    exact .refused ⟨other, List.mem_cons_of_mem part member, fault⟩ closed

/-- Every text gets its verdict, up to the first one refused. -/
theorem run_of_parts {kind : Bytes → Prop} (d : Decoder α) (ending : List Event) {tail : Bytes} {feed : Feed}
    {chunks : List Bytes} {parts : List (Bytes × Bytes)} (tracks : feed.Tracks)
    (opened : feed.closed = false) (blanks : ∀ part ∈ parts, Blank part.1)
    (serves : ∀ before part after, parts = before ++ part :: after →
      Serves kind d ending part.2 (joined after tail))
    (whole : feed.pending ++ chunks.flatten = joined parts tail)
    (uncut : Uncut kind parts feed.pending chunks) :
    ∃ after left, feed.run d (chunks.map .chunk ++ ending) (verdicts d (parts.map (·.2))).length =
        (verdicts d (parts.map (·.2)), after, left) ∧
      Done d ending parts feed.pending chunks after left := by
  -- the induction is on the texts; what the chunks taken leave is in `Past`
  induction parts generalizing feed chunks with
  | nil => exact ⟨feed, _, rfl, .past (by simp) rfl rfl (past_nil tracks opened)⟩
  | cons part parts ih =>
    obtain ⟨taken, others, rfl, comes⟩ := (serves [] part parts rfl).comes tracks
      (blanks part (by simp)) (whole.trans (joined_cons part parts tail)) uncut.head
    cases comes with
    | value decoded past pulled =>
      rw [← next_of_open d opened] at pulled
      obtain ⟨after, left, ran, done⟩ := ih past.tracks past.opened
        (fun other member => blanks other (List.mem_cons_of_mem part member))
        (fun before other after split => serves (part :: before) other after (by rw [split]; rfl))
        (past.left whole) (uncut.tail past)
      refine ⟨after, left, ?_, done.cons decoded past⟩
      simp only [List.map_cons, verdicts, decoded, List.length_cons]
      rw [run_succ d pulled, ran]
    | @refused _ after left decoded closed pulled =>
      rw [← next_of_open d opened] at pulled
      refine ⟨after, left, ?_, .refused ⟨part, by simp, _, decoded⟩ closed⟩
      simp only [List.map_cons, verdicts, decoded, List.length_singleton]
      rw [run_succ d pulled]
      rfl

theorem answers_of_parts (d : Decoder α) (ending : List Event) (tail : Bytes) (more : Nat)
    {feed : Feed} {chunks : List Bytes} {parts : List (Bytes × Bytes)} (tracks : feed.Tracks)
    (opened : feed.closed = false) (blanks : ∀ part ∈ parts, Blank part.1)
    (enclosed : ∀ part ∈ parts, Enclosed part.2)
    (whole : feed.pending ++ chunks.flatten = joined parts tail)
    (limit : more = 0 ∨ ∃ part ∈ parts, ∃ fault, d.ofText part.2 = .error fault) :
    feed.answers d (chunks.map .chunk ++ ending) ((verdicts d (parts.map (·.2))).length + more) =
      verdicts d (parts.map (·.2)) ++ List.replicate more .ended := by
  obtain ⟨after, left, ran, done⟩ := run_of_parts d ending tracks opened blanks
    (fun before part after split => serves_of_enclosed d ending (enclosed part (by simp [split])) _)
    whole (uncut_none _ _ _)
  rw [answers_add d ran]
  cases done with
  | past accepted =>
    have none : more = 0 := by
      rcases limit with none | ⟨part, member, fault, refused⟩
      · exact none
      · obtain ⟨a, decoded⟩ := accepted part member
        rw [decoded] at refused
        cases refused
    rw [none]
    rfl
  | refused _ closed => rw [answers_of_closed d closed]

/-- Exactly once and in order: a body of texts with blanks before each, cut in whatever way and
followed by whatever there is, answers with what the texts decode to. Of the texts after one that is
refused nothing is told. -/
theorem answers_in_order (d : Decoder α) (parts : List (Bytes × Bytes)) (tail : Bytes)
    (chunks : List Bytes) (ending : List Event) (blanks : ∀ part ∈ parts, Blank part.1)
    (enclosed : ∀ part ∈ parts, Enclosed part.2) (cut : chunks.flatten = joined parts tail) :
    let body := chunks.map .chunk ++ ending
    let texts := parts.map (·.2)
    start.answers d body (verdicts d texts).length = verdicts d texts ∧
      ((∃ text ∈ texts, ∃ fault, d.ofText text = .error fault) →
        ∀ more, start.answers d body ((verdicts d texts).length + more) =
          verdicts d texts ++ List.replicate more .ended) := by
  have tracks : start.Tracks := tracks_keep []
  have all (more : Nat) := answers_of_parts d ending tail more tracks rfl blanks enclosed cut
  constructor
  · simpa using all 0 (.inl rfl)
  · rintro ⟨text, member, refused⟩ more
    obtain ⟨part, inside, rfl⟩ := List.mem_map.mp member
    exact all more (.inr ⟨part, inside, refused⟩)

/-- Two texts, a list that holds a bracket in quotes and a string with an escape, cut inside both. -/
theorem answers_in_order_list_string :
    start.answers Decoder.text.list
        [.chunk [0x5B, 0x22, 0x5D], .chunk [], .chunk [0x22, 0x5D, 0x20, 0x22, 0x5C],
          .chunk [0x22, 0x22, 0x7B], .cutOff] 4 =
      [.value ["]"], .refused (.wrongType (.string "\"") .sequence), .ended, .ended] := by
  have list : Enclosed [0x5B, 0x22, 0x5D, 0x22, 0x5D] := by
    have item : Spells .value [0x22, 0x5D, 0x22] :=
      @Spells.string [0x5D] (.plain (by decide) (by decide) (by decide) .nil)
    have padded : Spells .padded [0x22, 0x5D, 0x22] := @Spells.padded [] _ [] rfl item rfl
    exact ⟨@Spells.list [0x22, 0x5D, 0x22] (.lastItem padded), rfl⟩
  have string : Enclosed [0x22, 0x5C, 0x22, 0x22] :=
    ⟨@Spells.string [0x5C, 0x22] (.escape rfl .nil), rfl⟩
  have answers := answers_in_order Decoder.text.list
    [([], [0x5B, 0x22, 0x5D, 0x22, 0x5D]), ([0x20], [0x22, 0x5C, 0x22, 0x22])] [0x7B]
    [[0x5B, 0x22, 0x5D], [], [0x22, 0x5D, 0x20, 0x22, 0x5C], [0x22, 0x22, 0x7B]] [.cutOff]
    (by decide) (by simp [list, string]) rfl
  exact answers.2 ⟨[0x22, 0x5C, 0x22, 0x22], by simp, .wrongType (.string "\"") .sequence, rfl⟩ 2

end Feed

end TezosNode.Body
